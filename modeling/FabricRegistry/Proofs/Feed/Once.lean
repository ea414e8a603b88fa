import FabricRegistry.Proofs.Feed.Mixed
import FabricRegistry.Proofs.Traffic.Change

/-!
A version that the ERP system announces takes effect once. The message of an update or of a deletion
names the version that it led to, and its command starts from the version before. Versions of rows
do not fall, so of all the messages that announce the same version of the same code, delivered as
often and in whatever order, one finds the version before, and all others find nothing to do
(`takes_effect_once`).
-/

namespace FabricRegistry.Traffic

open Command (effect)
open Inbound (Feed Notice)

variable {channel : Channel} {σ before before' : List Mixed.Action} {k k' : ℕ}
  {timing timing' : Timing} {n : Intake} {x : Notice} {t : Catalogue.Table} {f : Fabric}
  {text : String} {v : ℕ}

/-- Party `k` is a delivery of the message of an update or of a deletion that led the fabric with
the code `text` to version `v`. -/
def Mixed.State.Delivers (s : Mixed.State) (k : ℕ) (text : String) (v : ℕ) : Prop :=
  ∃ (p : Party) (n : Intake) (x : Notice), s.parties[k]? = some p ∧ p.order = .message n ∧
    Notice.ofBytes? n.message.payload = some x ∧ x.Revises ∧ x.code = text ∧ x.version = v

/-- **The messages of one version of one code take effect at most once** in a schedule. -/
structure TakesEffectOnce (channel : Channel) (σ : List Mixed.Action) (text : String) (v : ℕ) :
    Prop where
  /-- a delivery that changes the table finds the row active at the version before, brings it to its
  version, and changes no other row -/
  effect : ∀ k before timing, (Mixed.run channel σ).Delivers k text v →
    Mixed.Changes channel σ k before timing →
    ∃ code row row', Code.ofString text = .ok code ∧
      (Mixed.run channel before).stores.table.find? code = some row ∧
      row.status = .active ∧ row.version + 1 = v ∧
      (Mixed.run channel (before ++ [.move k timing])).stores.table.find? code = some row' ∧
      row'.version = v ∧
      ∀ other, other ≠ code →
        (Mixed.run channel (before ++ [.move k timing])).stores.table.find? other =
          (Mixed.run channel before).stores.table.find? other
  /-- only one delivery changes the table, and only once -/
  once : ∀ k before timing k' before' timing',
    (Mixed.run channel σ).Delivers k text v → Mixed.Changes channel σ k before timing →
    (Mixed.run channel σ).Delivers k' text v → Mixed.Changes channel σ k' before' timing' →
    k = k' ∧ before = before'
  /-- a delivery that does not change the table changes nothing else -/
  rest : ∀ k, (Mixed.run channel σ).Delivers k text v →
    (∀ before timing, ¬ Mixed.Changes channel σ k before timing) →
    ∀ before timing, Mixed.Moves σ k before timing →
      (Mixed.run channel (before ++ [.move k timing])).stores.table =
        (Mixed.run channel before).stores.table ∧
      (Mixed.run channel (before ++ [.move k timing])).stores.ledger =
        (Mixed.run channel before).stores.ledger

/-! ### What a delivery can change -/

/-- What the message of an update or of a deletion writes is the version that it names, over an
active row of the version before. -/
theorem Intake.effect_of_revises (hx : Notice.ofBytes? n.message.payload = some x)
    (hr : x.Revises) (h : effect t n.job.command = .ok f) :
    ∃ row, Code.ofString x.code = .ok f.code ∧ t.find? f.code = some row ∧
      row.status = .active ∧ row.version + 1 = x.version ∧ f.version = x.version := by
  obtain ⟨i, hi⟩ := Intake.exists_instruction h
  obtain ⟨x', hx', -, -, hc⟩ := Feed.exists_notice hi
  obtain rfl : x = x' := Option.some.inj (hx.symm.trans hx')
  obtain ⟨hpos, rev, hrev⟩ := Feed.command_of_revises hr hc
  rw [Intake.job_of_instruction hi, hrev] at h
  obtain ⟨row, hcode, hrow, hs, hv, hf⟩ := Revision.effect_eq_ok h
  exact ⟨row, hcode, hrow, hs, by omega, by omega⟩

/-- A party that changes the table writes the fabric of its command. -/
theorem Mixed.Changes.exists_effect (h : Mixed.Changes channel σ k before timing) {p : Party}
    (hp : (Mixed.run channel σ).parties[k]? = some p) :
    ∃ f, effect (Mixed.run channel before).stores.table p.order.job.command = .ok f ∧
      (Mixed.run channel (before ++ [.move k timing])).stores.table =
        (Mixed.run channel before).stores.table.put f.settled := by
  obtain ⟨⟨after, rfl⟩, hne⟩ := h
  rw [Mixed.run_stores_move, Mixed.run_stores] at hne ⊢
  obtain ⟨c, f, hc, hf, htable⟩ := table_change hne
  rw [List.append_assoc] at hp
  exact ⟨f, Mixed.job_of_client hc hp ▸ hf, htable⟩

theorem Mixed.versionOf_le_run (channel : Channel) (σ τ : List Mixed.Action) (code : Code) :
    (Mixed.run channel σ).stores.table.versionOf code ≤
      (Mixed.run channel (σ ++ τ)).stores.table.versionOf code := by
  rw [Mixed.run_stores, Mixed.run_stores, List.map_append]
  exact Traffic.versionOf_le_run channel _ _ code

/-- A party that changes the ledger changed the table before. -/
theorem Mixed.Moves.exists_changes (h : Mixed.Moves σ k before timing)
    (hne : (Mixed.run channel (before ++ [.move k timing])).stores.ledger ≠
      (Mixed.run channel before).stores.ledger) :
    ∃ before' timing', Mixed.Changes channel σ k before' timing' := by
  rw [Mixed.run_stores_move, Mixed.run_stores] at hne
  -- only a client that has written appends, and its write is an action of the same party
  obtain ⟨code, v, first, timing', rest, hsplit, hlt, heq⟩ := ledger_change hne
  have hprefix : first ++ [.move k timing'] <+: before.map Mixed.Action.shadow :=
    ⟨rest, by simp [hsplit]⟩
  obtain ⟨before', rfl, hmoves⟩ := Mixed.exists_moves hprefix
  refine ⟨before', timing', hmoves.trans ((List.prefix_append _ _).trans h), fun htable => ?_⟩
  rw [Mixed.run_stores_move, Mixed.run_stores] at htable
  rw [htable] at heq
  omega

/-! ### Once -/

/-- A delivery that changes the table leaves the row of its code at its version. -/
theorem Mixed.State.Delivers.written (hd : (Mixed.run channel σ).Delivers k text v)
    (h : Mixed.Changes channel σ k before timing) :
    ∃ (f row : Fabric), Code.ofString text = .ok f.code ∧
      (Mixed.run channel before).stores.table.find? f.code = some row ∧
      row.status = .active ∧ row.version + 1 = v ∧ f.version = v ∧
      (Mixed.run channel (before ++ [.move k timing])).stores.table =
        (Mixed.run channel before).stores.table.put f.settled := by
  obtain ⟨p, n, x, hp, hn, hx, hr, rfl, rfl⟩ := hd
  obtain ⟨f, hf, htable⟩ := h.exists_effect hp
  rw [hn] at hf
  obtain ⟨row, hcode, hrow, hs, hv, hversion⟩ := Intake.effect_of_revises hx hr hf
  exact ⟨f, row, hcode, hrow, hs, hv, hversion, htable⟩

/-- Of two changes by deliveries of the same version, none is before the other. -/
theorem not_prefix_of_changes (hd : (Mixed.run channel σ).Delivers k text v)
    (h : Mixed.Changes channel σ k before timing)
    (hd' : (Mixed.run channel σ).Delivers k' text v)
    (h' : Mixed.Changes channel σ k' before' timing') :
    ¬ before ++ [.move k timing] <+: before' := by
  -- the first change leaves version `v`, and the second would have to find the version before
  rintro ⟨between, rfl⟩
  obtain ⟨f, -, hcode, -, -, -, hversion, htable⟩ := hd.written h
  obtain ⟨f', row, hcode', hrow, -, hv, -, -⟩ := hd'.written h'
  have hsame : f.code = f'.code := Except.ok.inj (hcode.symm.trans hcode')
  have hle := Mixed.versionOf_le_run channel (before ++ [.move k timing]) between f.code
  rw [htable, Catalogue.Table.versionOf_put, if_pos rfl, hversion, hsame,
    Catalogue.Table.versionOf_of_find? hrow] at hle
  omega

theorem eq_of_changes (hd : (Mixed.run channel σ).Delivers k text v)
    (h : Mixed.Changes channel σ k before timing)
    (hd' : (Mixed.run channel σ).Delivers k' text v)
    (h' : Mixed.Changes channel σ k' before' timing')
    (hle : before ++ [.move k timing] <+: before' ++ [.move k' timing']) :
    k = k' ∧ before = before' := by
  rcases List.prefix_concat_iff.mp hle with heq | hlt
  · obtain ⟨rfl, ha⟩ := List.append_inj' heq rfl
    cases ha
    exact ⟨rfl, rfl⟩
  · exact absurd hlt (not_prefix_of_changes hd h hd' h')

/-- **What the ERP system announces takes effect at most once.** Let messages and commands be at
work at the same time, in any schedule and with any deadlines. Of all deliveries of messages that
tell of the update or the deletion that led a code to some version, one at most changes the table,
from the version before to this one, and the others change nothing. -/
theorem takes_effect_once (channel : Channel) (σ : List Mixed.Action) (text : String) (v : ℕ) :
    TakesEffectOnce channel σ text v := by
  constructor
  case effect =>
    intro k before timing hd h
    obtain ⟨f, row, hcode, hrow, hs, hv, hversion, htable⟩ := hd.written h
    refine ⟨f.code, row, f.settled, hcode, hrow, hs, hv, ?_, hversion, fun other hne => ?_⟩
    · rw [htable]
      exact Catalogue.Table.find?_put_self _ f.settled
    · rw [htable]
      exact Catalogue.Table.find?_put_of_ne hne.symm
  case once =>
    intro k before timing k' before' timing' hd h hd' h'
    rcases List.prefix_or_prefix_of_prefix h.1 h'.1 with hle | hle
    · exact eq_of_changes hd h hd' h' hle
    · obtain ⟨rfl, rfl⟩ := eq_of_changes hd' h' hd h hle
      exact ⟨rfl, rfl⟩
  case rest =>
    intro k _ hnever before timing hm
    refine ⟨?_, ?_⟩
    · by_contra hne
      exact hnever _ _ ⟨hm, hne⟩
    · by_contra hne
      obtain ⟨before', timing', h⟩ := hm.exists_changes hne
      exact hnever _ _ h

end FabricRegistry.Traffic
