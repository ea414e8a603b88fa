import FabricRegistry.Proofs.Feed.Contract
import FabricRegistry.Proofs.Feed.Redelivery

/-!
What an update makes of an attribute that the ERP system leaves out. It sets all details at once,
and the defaults of a creation stand in for it as well, so the default takes the place of what the
row has (`update_takes_defaults`).
-/

namespace FabricRegistry.Inbound.Notice

/-- the linen has another name, and nothing is said of its unit and its offer status -/
def linenRenamedText : String :=
  "\x7b\"event_id\": \"00000000000000000000000000000005\",
  \"event_type\": \"erp.fabric.updated\", \"aggregate_id\": \"LN100\",
  \"aggregate_type\": \"fabric\", \"aggregate_version\": 2, \"timestamp\": \"2025-01-01T00:00:00Z\",
  \"payload\": \x7b\"fabric_code\": \"LN100\", \"fabric_name\": \"Fine linen\"\x7d\x7d"

@[irreducible] def linenRenamed : ByteArray := linenRenamedText.toUTF8

set_option maxRecDepth 4000 in
theorem told_linenRenamed : Told linenRenamed .updated 2 ⟨"LN100", "Fine linen", none, none⟩ := by
  unfold linenRenamed
  exact told_of_ofChars? (by decide +kernel)

end FabricRegistry.Inbound.Notice

namespace FabricRegistry.Traffic

open Command (effect)
open Inbound (Announcement Feed Fills Notice fills_details repeats_details)

variable {n : Intake} {x : Notice} {t : Catalogue.Table} {f : Fabric}

/-- Where the message of an update writes something, it finds the active row at the version before
its own, and replaces all its details. -/
theorem Intake.effect_of_updated (hx : Notice.ofBytes? n.message.payload = some x)
    (hu : x.operation = .updated) (h : effect t n.job.command = .ok f) :
    ∃ code row, Code.ofString x.code = .ok code ∧ t.find? code = some row ∧
      row.status = .active ∧ row.version + 1 = x.version ∧
      f.settled = .restore code (x.announcement.details n.feed.defaults) .active x.version := by
  obtain ⟨i, hi⟩ := exists_instruction h
  obtain ⟨x', hx', hv, -, hc⟩ := Feed.exists_notice hi
  obtain rfl : x = x' := Option.some.inj (hx.symm.trans hx')
  have hpos : 1 ≤ x.version := (Feed.command_of_revises (Or.inl hu) hc).1
  have hd := Feed.validate_of_updated hu hc
  rw [command_of_notice hx hv (Feed.command_of_updated hu (Nat.ne_of_gt hpos) hd)] at h
  obtain ⟨code, row, hcode, hrow, hs, hversion, -, rfl⟩ := Command.effect_update_eq_ok h
  have hnext : row.version + 1 = x.version := by omega
  exact ⟨code, row, hcode, hrow, hs, hnext, by rw [hnext]; rfl⟩

/-- **An update takes the defaults for what it leaves out.** Let messages and commands have been at
work in any way, and let the message of an update change the stores. Then it is acknowledged, it
found the active row of its code at the version before its own, and the row that it leaves has the
name of the message, what the message gives, and the default for a unit or an offer status that the
message leaves out, whatever the row had before. -/
theorem update_takes_defaults (channel : Channel) (σ : List Mixed.Action) (n : Intake)
    (hx : Notice.ofBytes? n.message.payload = some x) (hu : x.operation = .updated)
    (h : ((Mixed.run channel σ).stores.handle channel n).2 ≠ (Mixed.run channel σ).stores) :
    let s := (Mixed.run channel σ).stores
    let d := x.announcement.details n.feed.defaults
    (∃ code row s', Code.ofString x.code = .ok code ∧ s.table.find? code = some row ∧
      row.status = .active ∧ row.version + 1 = x.version ∧ s.handle channel n = (.ok (), s') ∧
      s'.table = s.table.put (.restore code d .active x.version)) ∧
    Inbound.Repeats x.envelope x.announcement d ∧ Fills n.feed x.envelope d := by
  intro s d
  have hs : s.Orderly := Mixed.orderly_run channel σ
  have ha := Announcement.ofValue?_eq_some_iff.mp (Notice.ofBytes?_eq_some_iff.mp hx).2.2
  refine ⟨?_, repeats_details ha _, fills_details ha n.feed⟩
  cases heffect : effect s.table n.job.command with
  | error e => exact absurd (congrArg Prod.snd (Stores.handle_of_error hs heffect)) h
  | ok f =>
    obtain ⟨code, row, hcode, hrow, hactive, hversion, hf⟩ := n.effect_of_updated hx hu heffect
    obtain ⟨-, e, -, -, -, hhandle⟩ := Stores.handle_of_ok channel hs heffect
    exact ⟨code, row, _, hcode, hrow, hactive, hversion, hhandle, by rw [hf]⟩

/-! ### A unit that is lost -/

/-- The linen is created by its message. -/
def createdLinen : List Mixed.Action := deletedLinen.take 3

theorem find?_createdLinen : (Mixed.run .silent createdLinen).stores.table.find? linen =
    some (.restore linen ⟨"Linen", "m", "NEW"⟩ .active 1) := by
  obtain ⟨x, -, -, -, -, hjob⟩ := exists_linenCreated
  rw [Mixed.run_stores]
  simp only [createdLinen, deletedLinen, List.take_succ_cons, List.take_zero, List.map_cons,
    List.map_nil, Mixed.Action.shadow, Order.job, hjob]
  rfl

theorem effect_linenRenamed : ∃ x f, Notice.ofBytes? Notice.linenRenamed = some x ∧
    x.operation = .updated ∧ x.code = "LN100" ∧ x.version = 2 ∧
    x.announcement.details {} = ⟨"Fine linen", "MB", "ACTIVE"⟩ ∧
    effect (Mixed.run .silent createdLinen).stores.table
      (Intake.ofPayload Notice.linenRenamed).job.command = .ok f := by
  obtain ⟨x, hx, hv, hu, hversion, ha⟩ := Notice.told_linenRenamed
  have hcode : x.code = "LN100" := by rw [Notice.code, ha]
  have hdetails : x.announcement.details {} = ⟨"Fine linen", "MB", "ACTIVE"⟩ := by
    rw [ha]
    rfl
  have hname : (⟨"Fine linen", "MB", "ACTIVE"⟩ : Details).validate = .ok () := by rfl
  have hcommand : (Intake.ofPayload Notice.linenRenamed).job.command =
      .update "LN100" ⟨"Fine linen", "MB", "ACTIVE"⟩ 1 := by
    rw [Intake.command_of_notice hx hv
      (Feed.command_of_updated hu (by omega) (hdetails ▸ hname))]
    exact hcode ▸ hversion ▸ hdetails ▸ rfl
  have hlinen : Code.ofString "LN100" = .ok linen := rfl
  have hrow := Command.current_of_active hlinen find?_createdLinen rfl rfl
  exact ⟨x, _, hx, hu, hcode, hversion, hdetails,
    hcommand ▸ Command.effect_update_of_current hrow hname⟩

/-- **The unit of the linen is lost when it gets another name**: the row had the unit `m` and the
offer status `NEW`, the message says nothing of them, and the row is left with the defaults. -/
theorem update_takes_defaults_linen : ∃ s' : Stores,
    let s := (Mixed.run .silent createdLinen).stores
    s.table.find? linen = some (.restore linen ⟨"Linen", "m", "NEW"⟩ .active 1) ∧
    s.handle .silent (.ofPayload Notice.linenRenamed) = (.ok (), s') ∧
    s'.table.find? linen = some (.restore linen ⟨"Fine linen", "MB", "ACTIVE"⟩ .active 2) := by
  obtain ⟨x, f, hx, hu, hcode, hversion, hdetails, heffect⟩ := effect_linenRenamed
  have hchanges := Stores.handle_ne_of_ok .silent (Mixed.orderly_run .silent createdLinen) heffect
  obtain ⟨⟨code, row, s', hcode', -, -, -, hhandle, htable⟩, -, -⟩ :=
    update_takes_defaults .silent createdLinen (.ofPayload Notice.linenRenamed) hx hu hchanges
  obtain rfl : linen = code := by
    rw [hcode] at hcode'
    exact Except.ok.inj hcode'
  refine ⟨s', find?_createdLinen, hhandle, ?_⟩
  rw [htable, hversion, show x.announcement.details
    (Intake.ofPayload Notice.linenRenamed).feed.defaults = ⟨"Fine linen", "MB", "ACTIVE"⟩ from
      hdetails]
  exact Catalogue.Table.find?_put_self _
    (.restore linen ⟨"Fine linen", "MB", "ACTIVE"⟩ .active 2)

end FabricRegistry.Traffic
