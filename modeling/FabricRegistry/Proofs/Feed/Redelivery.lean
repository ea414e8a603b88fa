import FabricRegistry.Proofs.Feed.Once
import FabricRegistry.Proofs.Feed.Sequence

/-!
The creation of a fabric, delivered again. A creation names no version to start from, so only the
row of its code tells whether it was applied before. As long as this row is active the message does
nothing more; but once the fabric is deleted, the same message brings it back, at the next version
and with an envelope of its own (`created_again`).
-/

namespace FabricRegistry.Traffic

open Command (effect)
open Inbound (Feed Notice)

variable {channel : Channel} {σ before : List Mixed.Action} {k : ℕ} {timing : Timing}
  {n : Intake} {x : Notice} {t : Catalogue.Table} {f : Fabric} {payload : ByteArray}

/-- Party `k` is a delivery of the message `payload`. -/
def Mixed.State.Brings (s : Mixed.State) (k : ℕ) (payload : ByteArray) : Prop :=
  ∃ (p : Party) (n : Intake), s.parties[k]? = some p ∧ p.order = .message n ∧
    n.message.payload = payload

namespace Intake

/-- Where the message of a creation writes something, its envelope lacks nothing, and its code and
its name break no rule. -/
theorem effect_of_created (hx : Notice.ofBytes? n.message.payload = some x)
    (hc : x.operation = .created) (h : effect t n.job.command = .ok f) :
    x.envelope.validate = .ok () ∧ Code.ofString x.code = .ok f.code ∧
      (x.announcement.details n.feed.defaults).validate = .ok () := by
  obtain ⟨i, hi⟩ := exists_instruction h
  obtain ⟨x', hx', hv, -, -⟩ := Feed.exists_notice hi
  obtain rfl : x = x' := Option.some.inj (hx.symm.trans hx')
  rw [command_of_notice hx hv (Feed.command_of_created hc)] at h
  obtain ⟨code, hcode, hd, ⟨-, rfl⟩ | ⟨row, -, -, rfl⟩⟩ := Command.effect_create_eq_ok h
  · exact ⟨hv, hcode, hd⟩
  · exact ⟨hv, hcode, hd⟩

end Intake

/-- Whether details break a rule depends on the name alone, which has no default. -/
theorem validate_details (a : Inbound.Announcement) (defaults defaults' : FeedDefaults) :
    (a.details defaults).validate = (a.details defaults').validate := rfl

theorem Mixed.orderly_run (channel : Channel) (σ : List Mixed.Action) :
    (Mixed.run channel σ).stores.Orderly := by
  rw [Mixed.run_stores]
  exact Traffic.orderly_run channel _

/-- **A creation that is delivered again.** Let messages and commands be at work at the same time,
in any schedule and with any deadlines, and let a delivery of the message of a creation have changed
the table. The same message, handled once more with nobody else at work, is acknowledged. It changes
nothing where the fabric is active; where it is deleted, it brings the fabric back with the details
of the message, at the next version, which is recorded. -/
theorem created_again (channel : Channel) (σ : List Mixed.Action) (n : Intake)
    (hx : Notice.ofBytes? payload = some x) (hc : x.operation = .created)
    (hk : (Mixed.run channel σ).Brings k payload) (h : Mixed.Changes channel σ k before timing)
    (hn : n.message.payload = payload) :
    let s := (Mixed.run channel σ).stores
    ∃ code row, Code.ofString x.code = .ok code ∧ s.table.find? code = some row ∧
      (row.status = .active → s.handle channel n = (.ok (), s)) ∧
      (row.status = .deleted → ∃ e : Envelope,
        e.eventType = (Subject.event .app .reactivated).text ∧
        e.key = (code.text, row.version + 1) ∧
        s.handle channel n = (.ok (),
          ⟨s.table.put (.restore code (x.announcement.details n.feed.defaults) .active
              (row.version + 1)),
            ⟨s.ledger.events ++ [e], s.ledger.keys ++ [e.key]⟩, s.handed⟩)) := by
  intro s
  have hs : s.Orderly := Mixed.orderly_run channel σ
  -- the first delivery wrote the code, which has a row ever since
  obtain ⟨p, m, hp, hm, rfl⟩ := hk
  obtain ⟨f, hf, htable⟩ := h.exists_effect hp
  rw [hm] at hf
  obtain ⟨hv, hcode, hd⟩ := Intake.effect_of_created hx hc hf
  obtain ⟨row, hrow⟩ : ∃ row, s.table.find? f.code = some row := by
    obtain ⟨⟨after, rfl⟩, -⟩ := h
    have hle := Mixed.versionOf_le_run channel (before ++ [.move k timing]) after f.code
    rw [htable, Catalogue.Table.versionOf_put, if_pos rfl, Command.version_of_effect hf] at hle
    obtain ⟨row, hrow, -⟩ := Catalogue.Table.exists_row (Nat.succ_le_of_lt (Nat.succ_pos _)) hle
    exact ⟨row, hrow⟩
  rw [validate_details _ _ n.feed.defaults] at hd
  have hcommand := Intake.command_of_notice (hn ▸ hx) hv (Feed.command_of_created hc)
  refine ⟨f.code, row, hcode, hrow, fun hactive => ?_, fun hdeleted => ?_⟩
  · refine Stores.handle_of_error hs (e := .duplicateCode f.code) ?_
    rw [hcommand]
    exact Command.effect_create_of_active hcode hd hrow hactive
  · have he := Command.effect_create_of_deleted hcode hd hrow hdeleted
    rw [← hcommand] at he
    obtain ⟨y, e, hy, htype, hkey, hhandle⟩ := Stores.handle_of_ok channel hs he
    refine ⟨e, ?_, hkey, hhandle⟩
    cases hy
    exact htype

/-! ### A second effect -/

/-- The linen is created by its message, and then a caller deletes it. -/
def deletedLinen : List Mixed.Action :=
  [.bring (.message (.ofPayload Notice.linenCreated)), .move 0 .inTime, .move 0 .inTime,
    .bring (.command (.ofCommand (.delete "LN100" 1))), .move 1 .inTime, .move 1 .inTime,
    .move 1 .inTime, .move 1 .inTime]

theorem exists_linenCreated : ∃ x, Notice.ofBytes? Notice.linenCreated = some x ∧
    x.operation = .created ∧ x.code = "LN100" ∧
    x.announcement.details {} = ⟨"Linen", "m", "NEW"⟩ ∧
    (Intake.ofPayload Notice.linenCreated).job = ⟨.create "LN100" ⟨"Linen", "m", "NEW"⟩,
      Feed.invocation {} 0 x.envelope, fun _ => default⟩ := by
  obtain ⟨x, hx, hv, hc, -, ha⟩ := Notice.told_linenCreated
  have hcode : x.code = "LN100" := by rw [Notice.code, ha]
  have hdetails : x.announcement.details {} = ⟨"Linen", "m", "NEW"⟩ := by
    rw [ha]
    rfl
  have hi := Feed.instruction_of_notice {} 0 hx hv
  rw [Feed.command_of_created hc, hcode, hdetails] at hi
  exact ⟨x, hx, hc, hcode, hdetails,
    Intake.job_of_instruction (n := .ofPayload Notice.linenCreated) hi⟩

/-- The first answer that the message gets changes the table. -/
theorem changes_deletedLinen :
    Mixed.Changes .silent deletedLinen 0 (deletedLinen.take 1) .inTime := by
  obtain ⟨x, -, -, -, -, hjob⟩ := exists_linenCreated
  refine ⟨⟨deletedLinen.drop 2, rfl⟩, fun h => ?_⟩
  have hfind := congrArg (·.find? linen) h
  rw [Mixed.run_stores, Mixed.run_stores] at hfind
  simp only [deletedLinen, List.take_succ_cons, List.take_zero, List.cons_append, List.nil_append,
    List.map_cons, List.map_nil, Mixed.Action.shadow, Order.job, hjob] at hfind
  cases hfind

theorem find?_deletedLinen : (Mixed.run .silent deletedLinen).stores.table.find? linen =
    some (.restore linen ⟨"Linen", "m", "NEW"⟩ .deleted 2) := by
  obtain ⟨x, -, -, -, -, hjob⟩ := exists_linenCreated
  rw [Mixed.run_stores]
  simp only [deletedLinen, List.map_cons, List.map_nil, Mixed.Action.shadow, Order.job, hjob]
  rfl

/-- **A creation delivered again after a deletion has a second effect**: the deleted linen is back
at version 3. -/
theorem created_again_deleted : ∃ (e : Envelope) (s' : Stores),
    let s := (Mixed.run .silent deletedLinen).stores
    s.table.find? linen = some (.restore linen ⟨"Linen", "m", "NEW"⟩ .deleted 2) ∧
    s.handle .silent (.ofPayload Notice.linenCreated) = (.ok (), s') ∧
    s'.table.find? linen = some (.restore linen ⟨"Linen", "m", "NEW"⟩ .active 3) ∧
    s'.ledger.events = s.ledger.events ++ [e] ∧ e.key = ("LN100", 3) := by
  obtain ⟨x, hx, hc, hcode, hdetails, -⟩ := exists_linenCreated
  have hbrings : (Mixed.run .silent deletedLinen).Brings 0 Notice.linenCreated :=
    ⟨_, .ofPayload Notice.linenCreated, rfl, rfl, rfl⟩
  obtain ⟨code, row, hcode', hrow, -, hagain⟩ := created_again .silent deletedLinen
    (.ofPayload Notice.linenCreated) hx hc hbrings changes_deletedLinen rfl
  obtain rfl : linen = code := by
    rw [hcode] at hcode'
    exact Except.ok.inj hcode'
  obtain rfl := Option.some.inj (find?_deletedLinen.symm.trans hrow)
  obtain ⟨e, -, hkey, hhandle⟩ := hagain rfl
  refine ⟨e, _, find?_deletedLinen, hhandle, ?_, rfl, hkey⟩
  rw [show x.announcement.details (Intake.ofPayload Notice.linenCreated).feed.defaults =
    ⟨"Linen", "m", "NEW"⟩ from hdetails]
  exact Catalogue.Table.find?_put_self _ (.restore linen ⟨"Linen", "m", "NEW"⟩ .active 3)

end FabricRegistry.Traffic
