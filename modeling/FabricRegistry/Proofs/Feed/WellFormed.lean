import FabricRegistry.Proofs.Command.Written
import FabricRegistry.Proofs.Feed.Mixed

/-!
The form of what is kept, with commands and messages at work at the same time. Rows are written by
decisions only, each on the rows that the decisions before it leave, so they are well formed along
the line; and an envelope comes from a decision, so it tells of a fact that was written at some
moment of the schedule (`stored_well_formed`).
-/

namespace FabricRegistry.Traffic

open Command (effect)

variable {channel : Channel} {σ : List Action} {posts : List Post} {line : List Decision}

/-! ### Along the line -/

theorem InLine.wellFormed (h : InLine line) : ∀ row ∈ (tableOf line).rows, row.WellFormed := by
  induction h with
  | nil => exact fun row hrow => absurd hrow List.not_mem_nil
  | snoc h hv ih =>
    rw [tableOf_append_singleton, hv]
    exact Command.wellFormed_settle_effect ih _

/-- In a schedule, a fabric is written for a decision: an answered request of its client finds a
table on which its command comes to the fabric, and leaves the table with the fabric put in. -/
def WrittenFor (channel : Channel) (σ : List Action) (d : Decision) (f : Fabric) : Prop :=
  ∃ before timing, before ++ [.move d.client timing] <+: σ ∧
    effect (run channel before).stores.table d.job.command = .ok f ∧
    (run channel (before ++ [.move d.client timing])).stores.table =
      (run channel before).stores.table.put f.settled

theorem WrittenFor.append {d : Decision} {f : Fabric} (h : WrittenFor channel σ d f)
    (τ : List Action) : WrittenFor channel (σ ++ τ) d f := by
  obtain ⟨before, timing, hprefix, hwrite⟩ := h
  exact ⟨before, timing, hprefix.trans (List.prefix_append σ τ), hwrite⟩

/-- **What a decision writes is written by an action.** -/
theorem Course.writtenFor (h : Course channel σ posts line) {d : Decision} (hd : d ∈ line)
    {f : Fabric} (hf : d.verdict = .ok f) : WrittenFor channel σ d f := by
  induction h with
  | nil => exact absurd hd List.not_mem_nil
  | starts h ho hm ih =>
    rcases mem_decided.mp hd with hd | ⟨v, rfl, rfl⟩
    · exact (ih hd).append _
    · -- a command that is decided when it is given fails
      cases ho
      cases hf
  | @moves σ posts line k timing job st st' verdict h hk hp hm ih =>
    rcases mem_decided.mp hd with hd | ⟨v, rfl, rfl⟩
    · exact (ih hd).append _
    · obtain rfl : v = .ok f := hf
      exact ⟨σ, timing, List.prefix_rfl, hp.verdict_eq.symm, hp.table_eq⟩
  | stays h hrun ih => exact (ih hd).append _

/-! ### With messages -/

/-- In a schedule, a fact is written: an answered request of some party finds a row, or none, that
the fact fits, and leaves the row to which the fact leads. -/
def Mixed.Writes (channel : Channel) (σ : List Mixed.Action) (x : Fact) : Prop :=
  ∃ k before timing row, Mixed.Moves σ k before timing ∧
    x.onto? ((Mixed.run channel before).stores.table.find? x.code) = some row ∧
    (Mixed.run channel (before ++ [.move k timing])).stores.table.find? x.code = some row

/-- A decision of the schedule of the commands writes its fact in the schedule with messages. -/
theorem Mixed.writes_of_decision {σ : List Mixed.Action}
    (h : Course channel (σ.map Mixed.Action.shadow) posts line) {d : Decision} (hd : d ∈ line)
    {f : Fabric} (hf : d.verdict = .ok f) {x : Fact} (hx : f.pending = [x]) :
    Mixed.Writes channel σ x := by
  obtain ⟨before, timing, hprefix, heffect, htable⟩ := h.writtenFor hd hf
  obtain ⟨y, hy, hcode, -, honto⟩ := Command.effect_eq_ok heffect
  obtain rfl : x = y := by simpa [hx] using hy
  obtain ⟨before, rfl, hmoves⟩ := Mixed.exists_moves hprefix
  refine ⟨d.client, before, timing, f.settled, hmoves, ?_, ?_⟩
  · rw [Mixed.run_stores, hcode]
    exact honto
  · rw [Mixed.run_stores_move, htable, hcode]
    exact Catalogue.Table.find?_put_self _ f.settled

/-- **What is kept is well formed.** Let commands with any texts and messages of any bytes be at
work at the same time, in any schedule and with any deadlines. Every row has a code, a name and a
version as they should be. Every recorded envelope is of an aggregate with a code, is a creation
just if it has version 1, and tells of a fact that was written. -/
theorem stored_well_formed (channel : Channel) (σ : List Mixed.Action) :
    (∀ row ∈ (Mixed.run channel σ).stores.table.rows, row.WellFormed) ∧
    ∀ e ∈ (Mixed.run channel σ).stores.ledger.events,
      IsCodeText e.aggregateId ∧ (e.eventType = "app.fabric.created" ↔ e.aggregateVersion = 1) ∧
      ∃ x, e.Tells x ∧ Mixed.Writes channel σ x := by
  obtain ⟨posts, line, h⟩ := exists_course channel (σ.map Mixed.Action.shadow)
  rw [Mixed.run_stores]
  refine ⟨h.table_eq ▸ h.inLine.wellFormed, fun e he => ?_⟩
  obtain ⟨d, hd, hbatch⟩ := h.account.origin e he
  obtain ⟨f, hf⟩ := Decision.verdict_of_mem_batch hbatch
  obtain ⟨x, hx, -, -, heq⟩ := h.inLine.batch_of_mem hd hf
  rw [heq, List.mem_singleton] at hbatch
  subst hbatch
  have hwrites := Mixed.writes_of_decision h hd hf hx
  refine ⟨x.code.isCodeText, ?_, x, Envelope.tells_ofFact _ _ _, hwrites⟩
  obtain ⟨-, before, -, row, -, honto, -⟩ := hwrites
  obtain ⟨posts, line, h⟩ := exists_course channel (before.map Mixed.Action.shadow)
  rw [Mixed.run_stores] at honto
  exact Fact.eventType_eq_created_iff.trans
    (Fact.created_iff_of_onto? honto fun old hold => (h.tidy _ old hold).2)

end FabricRegistry.Traffic
