import FabricRegistry.Proofs.Command.Revision
import FabricRegistry.Proofs.Traffic.Basic

/-!
Where a command stands. The work that is left of a command is a tree of requests and replies; a
`Stage` names the six places in it that matter, with the data that the rest depends on, and
`Stands` says which work belongs to which stage.

A command that has not written and not failed is *undecided*. What is known of the table while it
is undecided is `Sound`: a version names one state of a row, so a row that is still at the version
that was read is still the row that was read, and a write that found its row gone is behind the
version that the row has now.
-/

namespace FabricRegistry.Traffic

open Command (Work bounded write missedWrite)

/-- where a command stands -/
inductive Stage where
  /-- before the request that saves a new fabric -/
  | saving (f : Fabric)
  /-- before the request that reads the fabric -/
  | loading (code : Code)
  /-- before the conditional write of `f`, made from the fabric that was read -/
  | writing (current f : Fabric)
  /-- after a write that found no row at the expected version, before the row is read again -/
  | reloading (code : Code) (expected : ℕ)
  /-- `f` is written, its envelopes are not recorded yet -/
  | recording (f : Fabric)
  /-- the result is certain, some envelopes are still to be handed to the channel -/
  | ended (r : Except CommandError Outcome) (rest : List Envelope)

/-- how many requests to the table a command may still make -/
def Stage.requests : Stage → ℕ
  | saving _ => 1
  | loading _ => 3
  | writing _ _ => 2
  | reloading _ _ => 1
  | recording _ => 0
  | ended _ _ => 0

/-- A command is undecided as long as it has a request to the table to make. -/
def Stage.Undecided (st : Stage) : Prop := 0 < st.requests

/-- what is left of a command whose fabric is written -/
def Job.finish (channel : Channel) (job : Job) (message : String) (f : Fabric) : Work Outcome :=
  (Command.record channel.subject job.stamps job.invocation f).andThen (Command.report message)

/-- the envelopes of the facts that a fabric has pending -/
def Job.batch (job : Job) (f : Fabric) : List Envelope :=
  Command.envelopes job.stamps job.invocation.provenance f.pending

/-- Work that asks nothing of the stores any more: it hands over the envelopes of `rest` and comes
to `r`, whatever the channel replies. -/
inductive EndsIn (channel : Channel) (r : Except CommandError Outcome) :
    List Envelope → Work Outcome → Prop where
  | done : EndsIn channel r [] (.done r)
  | remark {m rest w} : EndsIn channel r rest w → EndsIn channel r rest (.remark m w)
  | publish {e rest next} : (∀ a, EndsIn channel r rest (next a)) →
      EndsIn channel r (e :: rest) (.ask (.publish channel.subject e) next)

/-- The work that is left at a stage of a command. -/
inductive Stands (channel : Channel) (job : Job) : Stage → Work Outcome → Prop where
  | saving {text d f} (hc : job.command = .create text d) (hf : Fabric.create text d = .ok f) :
      Stands channel job (.saving f)
        ((bounded job.invocation .save (.save f)).andThen
          (job.finish channel "Fabric created"))
  | loading {text expected} {rev : Revision} {code message}
      (hc : job.command = rev.command text expected) (ht : Code.ofString text = .ok code) :
      Stands channel job (.loading code)
        ((bounded job.invocation .load (.findActive code)).andThen fun current =>
          (Work.ofFabric (rev.operation current expected)).andThen fun f =>
          (write job.invocation rev.step (rev.request f) code expected).andThen fun _ =>
          job.finish channel message f)
  | writing {text expected} {rev : Revision} {code current f message}
      (hc : job.command = rev.command text expected) (ht : Code.ofString text = .ok code)
      (hcode : current.code = code) (hf : rev.operation current expected = .ok f) :
      Stands channel job (.writing current f)
        ((write job.invocation rev.step (rev.request f) code expected).andThen fun _ =>
          job.finish channel message f)
  | reloading {text expected} {rev : Revision} {code} {after : Unit → Work Outcome}
      (hc : job.command = rev.command text expected) (ht : Code.ofString text = .ok code) :
      Stands channel job (.reloading code expected)
        ((missedWrite job.invocation code expected).andThen after)
  | recording {message f} : Stands channel job (.recording f) (job.finish channel message f)
  | ended {r rest w} (h : EndsIn channel r rest w) : Stands channel job (.ended r rest) w

/-- What is known of the table at a stage: the row is still the one that was read, or it has a later
version. -/
def Stage.Sound (t : Catalogue.Table) : Stage → Prop
  | writing current _ =>
    ∃ row, t.find? current.code = some row ∧ (row = current ∨ current.version < row.version)
  | reloading code expected => ∃ row, t.find? code = some row ∧ expected < row.version
  | _ => True

/-! ### What a stage shows -/

variable {channel : Channel} {job : Job} {st : Stage} {w : Work Outcome}
  {r : Except CommandError Outcome} {rest : List Envelope}

theorem EndsIn.rest_eq {r' : Except CommandError Outcome} (h : EndsIn channel r rest w)
    (hw : result? w = some r') : r' = r ∧ rest = [] := by
  induction h with
  | done => exact ⟨by cases hw; rfl, rfl⟩
  | remark _ ih => exact ih hw
  | publish _ _ => cases hw

theorem Stands.ended_of_result (h : Stands channel job st w) (hw : result? w = some r) :
    st = .ended r [] := by
  cases h with
  | ended h =>
    obtain ⟨rfl, rfl⟩ := h.rest_eq hw
    rfl
  | saving _ _ => cases hw
  | loading _ _ => cases hw
  | writing _ _ _ _ => cases hw
  | reloading _ _ => cases hw
  | recording => cases hw

theorem EndsIn.result_of_nil (h : EndsIn channel r rest w) (hrest : rest = []) :
    result? w = some r := by
  induction h with
  | done => rfl
  | remark _ ih => exact ih hrest
  | publish _ _ => cases hrest

theorem EndsIn.appending_eq_none (h : EndsIn channel r rest w) : appending? w = none := by
  induction h with
  | done => rfl
  | remark _ ih => exact ih
  | publish _ _ => rfl

/-- A command is about to record exactly at the stage of recording, and then it is the batch of its
fabric. -/
theorem Stands.appending_eq_some {batch : List Envelope} (h : Stands channel job st w) :
    appending? w = some batch ↔ ∃ f, st = .recording f ∧ batch = job.batch f := by
  constructor
  · intro hw
    cases h with
    | saving _ _ => cases hw
    | loading _ _ => cases hw
    | writing _ _ _ _ => cases hw
    | reloading _ _ => cases hw
    | recording =>
      cases hw
      exact ⟨_, rfl, rfl⟩
    | ended h =>
      rw [h.appending_eq_none] at hw
      cases hw
  · rintro ⟨f, rfl, rfl⟩
    cases h with
    | recording => rfl

end FabricRegistry.Traffic
