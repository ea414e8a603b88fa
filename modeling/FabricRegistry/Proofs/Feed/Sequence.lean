import FabricRegistry.Proofs.Feed.Mixed
import FabricRegistry.Proofs.Traffic.InTime

/-!
Messages of the ERP feed one at a time, their requests answered in time. A message is acknowledged
whatever it tells, and it leaves what its command leaves (`Stores.handle_eq`).
-/

namespace FabricRegistry.Traffic

open Command (effect)
open Inbound (Feed Handled)

variable {channel : Channel} {n : Intake} {s : Stores} {f : Fabric}

/-- what a message comes to with nobody else at work, and the stores after it -/
def Stores.handle (channel : Channel) (n : Intake) (s : Stores) : Handled × Stores :=
  inTime channel (n.work channel) s

/-- what messages each of which comes when the one before is done with come to, and the stores
after them -/
def handleAll (channel : Channel) : List Intake → Stores → List Handled × Stores
  | [], s => ([], s)
  | n :: rest, s =>
    let (h, s) := s.handle channel n
    let (hs, s) := handleAll channel rest s
    (h :: hs, s)

theorem handleAll_append_singleton (intakes : List Intake) (n : Intake) (s : Stores) :
    handleAll channel (intakes ++ [n]) s =
      ((handleAll channel intakes s).1 ++ [((handleAll channel intakes s).2.handle channel n).1],
        ((handleAll channel intakes s).2.handle channel n).2) := by
  induction intakes generalizing s with
  | nil => rfl
  | cons m rest ih => simp [handleAll, ih]

/-- What a command comes to on rows is no failure for the feed. -/
theorem acknowledgement_decide (channel : Channel) (job : Job) (s : Stores) :
    Feed.acknowledgement (s.decide channel job).1 = .ok () := by
  cases h : effect s.table job.command with
  | ok f =>
    simp only [Stores.decide, h]
    rfl
  | error e =>
    rw [Stores.decide_of_error h]
    rcases Command.effect_eq_error h with ⟨v, rfl⟩ | ⟨c, rfl⟩ | ⟨c, rfl⟩ | ⟨c, v, rfl⟩ <;> rfl

/-- **A message that is answered in time is acknowledged**, and it leaves what its command
leaves. -/
theorem Stores.handle_eq (channel : Channel) (n : Intake) (hs : s.Orderly) :
    s.handle channel n = (.ok (), (s.decide channel n.job).2) := by
  cases h : n.feed.instruction n.now n.message.payload with
  | ok i =>
    have halone : inTime channel (n.job.work channel) s = s.decide channel n.job :=
      Stores.alone_eq_decide channel n.job hs
    obtain ⟨m, hm⟩ := Feed.exists_remark (s.decide channel n.job).1
    rw [Stores.handle, Intake.work_of_instruction channel h, inTime_bind, halone, hm,
      acknowledgement_decide]
    rfl
  | error reason =>
    obtain ⟨e, he⟩ := Intake.effect_of_dropped h s.table
    rw [Stores.handle, Intake.work_of_dropped channel h, Stores.decide_of_error he]
    rfl

/-- A message whose command fails changes nothing. -/
theorem Stores.handle_of_error {e : CommandError} (hs : s.Orderly)
    (h : effect s.table n.job.command = .error e) : s.handle channel n = (.ok (), s) := by
  rw [Stores.handle_eq channel n hs, Stores.decide_of_error h]

/-- A message whose fabric is written leaves one envelope, and nothing is published. -/
theorem Stores.handle_of_ok (channel : Channel) (hs : s.Orderly)
    (h : effect s.table n.job.command = .ok f) :
    ∃ (x : Fact) (e : Envelope), f.pending = [x] ∧ e.eventType = x.eventType ∧
      e.key = (f.code.text, f.version) ∧
      s.handle channel n = (.ok (), ⟨s.table.put f.settled,
        ⟨s.ledger.events ++ [e], s.ledger.keys ++ [e.key]⟩, s.handed⟩) := by
  obtain ⟨x, hx, hcode, hversion, hbatch, -⟩ := hs.append_batch h
  refine ⟨x, .ofFact (n.job.stamps 0) x n.job.invocation.provenance, hx, rfl, ?_, ?_⟩
  · rw [Envelope.key_ofFact, hcode, hversion]
  · rw [Stores.handle_eq channel n hs]
    simp [Stores.decide, h, hbatch, Intake.publishes_of_effect h]

/-- A message whose fabric is written changes something. -/
theorem Stores.handle_ne_of_ok (channel : Channel) (hs : s.Orderly)
    (h : effect s.table n.job.command = .ok f) : (s.handle channel n).2 ≠ s := by
  obtain ⟨x, e, -, -, -, hhandle⟩ := Stores.handle_of_ok channel hs h
  rw [hhandle]
  intro heq
  have hevents := congrArg (·.ledger.events) heq
  simp at hevents

end FabricRegistry.Traffic
