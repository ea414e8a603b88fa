import FabricRegistry.Command.Error
import FabricRegistry.Command.Invocation
import FabricRegistry.Dialogue
import FabricRegistry.Publication

/-!
Commands on fabrics. A command applies its operation to the fabric, writes the row, records one
envelope for each fact, and publishes the envelopes if a caller waits for it. A failure before the
row is written leaves nothing behind; when the row is written but the envelopes are not recorded,
the failure says so. Publication is best effort.
-/

namespace FabricRegistry

/-- what a caller can have done to a fabric -/
inductive Command where
  | create (code : String) (details : Details)
  | update (code : String) (details : Details) (expected : Nat)
  | delete (code : String) (expected : Nat)
  deriving DecidableEq, Repr

/-- the fabric as it was written, and the envelopes that were recorded -/
structure Outcome where
  fabric : Fabric
  events : List Envelope
  deriving BEq, Repr

namespace Command

/-- what a command asks of others; requests to storage carry the deadline -/
inductive Ask where
  | catalogue (step : Step) (request : Catalogue.Request) (deadline : Option Instant)
  | append (batch : List Envelope) (deadline : Option Instant)
  | publish (subject : String) (e : Envelope)

/-- the replies; none where the deadline passed first -/
abbrev Reply : Ask → Type
  | .catalogue _ request _ => Option request.Reply
  | .append _ _ => Option (Except Trail.Error Unit)
  | .publish _ _ => Except PublishError Unit

/-- a command at work -/
abbrev Work (α : Type) : Type := Dialogue Reply (Except CommandError α)

namespace Work

variable {α β : Type}

def fail (e : CommandError) : Work α := .done (.error e)

/-- the next part of a command, unless it failed -/
def andThen (w : Work α) (f : α → Work β) : Work β :=
  w.bind fun
    | .ok a => f a
    | .error e => fail e

/-- a broken rule of the fabric ends a command -/
def ofFabric (r : Except FabricError α) : Work α := .done (r.mapError .ofFabric)

/-- a broken rule of validation ends a command -/
def ofValidation (r : Except ValidationError α) : Work α := .done (r.mapError .validation)

end Work

/-- a request to the catalogue within the deadline -/
def bounded (i : Invocation) (step : Step) (request : Catalogue.Request) : Work request.Answer :=
  .ask (.catalogue step request i.deadline) fun
    | some (.ok a) => .done (.ok a)
    | some (.error e) => .done (.error (.ofCatalogue e))
    | none => .done (.error (.deadlineExceeded step.text))

/-- why a write found no row: the version moved on, or there is no active row -/
def missedWrite (i : Invocation) (code : Code) (expected : Nat) : Work Unit :=
  (bounded i .reload (.findAny code)).andThen fun current =>
    if current.isActive && current.version != expected then
      Work.fail (.concurrencyConflict code expected)
    else Work.fail (.notFound code)

/-- a write on the condition of the version before -/
def write (i : Invocation) (step : Step) (request : Catalogue.Request) (code : Code)
    (expected : Nat) : Work Unit :=
  (bounded i step request).bind fun
    | .ok _ => .done (.ok ())
    | .error (.notFound _) => missedWrite i code expected
    | .error e => Work.fail e

/-- the envelopes of facts, each with a stamp of its own -/
def envelopes (stamps : Nat → Stamp) (provenance : Provenance) (facts : List Fact) :
    List Envelope :=
  facts.zipIdx.map fun (f, n) => .ofFact (stamps n) f provenance

/-- the failure of a command whose row is written but whose envelopes are not recorded -/
def notRecorded {α : Type} (f : Fabric) (reason : String) (conflict : Bool) : Work α :=
  (Dialogue.say .error
      "State committed but events were not recorded; manual reconciliation required").bind fun _ =>
    Work.fail (.eventsNotRecorded f.code f.version reason conflict)

/-- publication of each envelope in order, whatever becomes of it -/
def publishAll (subject : String) : List Envelope → Dialogue Reply Unit
  | [] => .done ()
  | e :: rest =>
    .ask (.publish subject e) fun
      | .ok _ => publishAll subject rest
      | .error _ =>
        (Dialogue.say .warn "Failed to publish event").bind fun _ => publishAll subject rest

/-- The pending facts of a written fabric are recorded and, for a waiting caller, published. -/
def record (outbound : String) (stamps : Nat → Stamp) (i : Invocation) (f : Fabric) :
    Work Outcome :=
  let batch := envelopes stamps i.provenance f.pending
  .ask (.append batch i.deadline) fun
    | none => notRecorded f "deadline exceeded" false
    | some (.error e) => notRecorded f e.message e.isConflict
    | some (.ok _) =>
      (if i.publishes then publishAll outbound batch else .done ()).bind fun _ =>
      (Dialogue.say .debug "Recorded events").bind fun _ =>
      .done (.ok ⟨f.settled, batch⟩)

/-- the report of a command that succeeded -/
def report (message : String) (o : Outcome) : Work Outcome :=
  (Dialogue.say .info message).bind fun _ => .done (.ok o)

/-- a new fabric, or the return of a deleted one -/
def performCreate (outbound : String) (stamps : Nat → Stamp) (i : Invocation) (code : String)
    (details : Details) : Work Outcome :=
  (Work.ofFabric (Fabric.create code details)).andThen fun f =>
  (bounded i .save (.save f)).andThen fun persisted =>
  (record outbound stamps i persisted).andThen (report "Fabric created")

/-- other details for an active fabric -/
def performUpdate (outbound : String) (stamps : Nat → Stamp) (i : Invocation) (code : String)
    (details : Details) (expected : Nat) : Work Outcome :=
  (Work.ofValidation (Code.ofString code)).andThen fun code =>
  (bounded i .load (.findActive code)).andThen fun current =>
  (Work.ofFabric (current.update details expected)).andThen fun f =>
  (write i .update (.update f) code expected).andThen fun _ =>
  (record outbound stamps i f).andThen (report "Fabric updated")

/-- the end of an active fabric -/
def performDelete (outbound : String) (stamps : Nat → Stamp) (i : Invocation) (code : String)
    (expected : Nat) : Work Outcome :=
  (Work.ofValidation (Code.ofString code)).andThen fun code =>
  (bounded i .load (.findActive code)).andThen fun current =>
  (Work.ofFabric (current.delete expected)).andThen fun f =>
  (write i .delete (.delete f) code expected).andThen fun _ =>
  (record outbound stamps i f).andThen (report "Fabric deleted")

/-- a command at work, publishing on the channel `outbound` -/
def perform (outbound : String) (stamps : Nat → Stamp) (i : Invocation) : Command → Work Outcome
  | .create code details => performCreate outbound stamps i code details
  | .update code details expected => performUpdate outbound stamps i code details expected
  | .delete code expected => performDelete outbound stamps i code expected

/-- the invocation of a question: no deadline -/
def unhurried : Invocation := { source := .synchronous }

/-- the active fabric of a code -/
def findActive (code : String) : Work Fabric :=
  (Work.ofValidation (Code.ofString code)).andThen fun code =>
  bounded unhurried .load (.findActive code)

/-- the fabric of a code, deleted or not -/
def findAny (code : String) : Work Fabric :=
  (Work.ofValidation (Code.ofString code)).andThen fun code =>
  bounded unhurried .reload (.findAny code)

end Command

end FabricRegistry
