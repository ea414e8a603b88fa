import FabricRegistry.Command.Service
import FabricRegistry.Inbound.Router
import FabricRegistry.Settings

/-!
Events of the ERP system as commands. The version of such an event is the one that it led to, while
a command names the version that it expects to find, which is one less. What can never succeed is
dropped, what was applied before is skipped, and only a failure of the infrastructure has the
message delivered again.
-/

namespace FabricRegistry.Inbound

/-- what the ERP system says of a fabric -/
structure Announcement where
  code : String
  name : String
  measureUnit : Option String
  offerStatus : Option String
  deriving DecidableEq, Repr

namespace Announcement

/-- the names of the fields, in their order -/
def fieldNames : List String := ["fabric_code", "fabric_name", "measure_unit", "offer_status"]

/-- the announcement that a JSON value denotes -/
def ofValue? (v : Json.Value) : Option Announcement := do
  let fields ← v.fields? fieldNames
  return {
    code := ← fields.withDefault? "fabric_code" "" Json.Value.string?
    name := ← fields.withDefault? "fabric_name" "" Json.Value.string?
    measureUnit := ← fields.withDefault? "measure_unit" none Json.Value.optionalString?
    offerStatus := ← fields.withDefault? "offer_status" none Json.Value.optionalString? }

/-- a text, or its default if it is missing or empty -/
def orDefault (given : Option String) (default : String) : String :=
  match given with
  | some s => if s = "" then default else s
  | none => default

/-- the details, with defaults for what is missing -/
def details (a : Announcement) (defaults : FeedDefaults) : Details :=
  { name := a.name
    measureUnit := orDefault a.measureUnit defaults.measureUnit
    offerStatus := orDefault a.offerStatus defaults.offerStatus }

end Announcement

/-- a command with its invocation -/
structure Instruction where
  invocation : Invocation
  command : Command
  deriving DecidableEq, Repr

/-- the reply to an instruction -/
abbrev Instruction.Reply (_ : Instruction) : Type := Except CommandError Outcome

/-- how announcements become commands -/
structure Feed where
  defaults : FeedDefaults := {}
  /-- milliseconds for each command -/
  timeout : Option Nat := none
  deriving DecidableEq, Repr

namespace Feed

/-- a message at work -/
abbrev Work : Type := Dialogue Instruction.Reply Handled

/-- a message that is done with, for a reason worth a warning -/
def drop (reason : String) : Work := .remark ⟨.warn, reason⟩ (.done (.ok ()))

/-- The invocation of a command set off by an envelope. The envelope is its cause; its request is
the one that the envelope belongs to, or the envelope itself. -/
def invocation (feed : Feed) (now : Instant) (e : Envelope) : Invocation :=
  let cause := e.id.text
  let i : Invocation :=
    { source := .asynchronous
      provenance :=
        { correlation := some (e.provenance.correlation.getD cause)
          causation := some cause
          user := e.provenance.user } }
  match feed.timeout with
  | some milliseconds => i.withTimeout now milliseconds
  | none => i

section

variable (feed : Feed) (now : Instant) (e : Envelope)

@[simp] theorem invocation_source : (feed.invocation now e).source = .asynchronous := by
  unfold invocation
  cases feed.timeout <;> rfl

@[simp] theorem invocation_provenance : (feed.invocation now e).provenance =
    { correlation := some (e.provenance.correlation.getD e.id.text)
      causation := some e.id.text
      user := e.provenance.user } := by
  unfold invocation
  cases feed.timeout <;> rfl

@[simp] theorem invocation_deadline :
    (feed.invocation now e).deadline = feed.timeout.map now.after := by
  unfold invocation
  cases feed.timeout <;> rfl

end

/-- what becomes of a message whose command has a result -/
def settle : Except CommandError Outcome → Work
  | .ok _ => .remark ⟨.info, "Applied ERP event"⟩ (.done (.ok ()))
  | .error e =>
    match e.kind with
    | .infrastructure =>
      .remark ⟨.error, "Failed to apply ERP event; will retry"⟩ (.done (.error (.command e)))
    | .duplicate | .notFound | .conflict =>
      .remark ⟨.info, "ERP event already applied or out of order; skipping"⟩ (.done (.ok ()))
    | .validation => drop "Invalid fabric data from ERP; dropping"

/-- the command of an announcement, or the reason why there is none -/
def command (feed : Feed) (version : Nat) (op : Operation) (a : Announcement) :
    Except String Command :=
  let details := a.details feed.defaults
  match op with
  | .created => .ok (.create a.code details)
  | .updated =>
    if version = 0 then .error "Update event without a version; dropping"
    else
      match details.validate with
      | .error _ => .error "Invalid fabric data from ERP; dropping"
      | .ok _ => .ok (.update a.code details (version - 1))
  | .deleted =>
    if version = 0 then .error "Delete event without a version; dropping"
    else .ok (.delete a.code (version - 1))
  | .reactivated => .error "Unsupported ERP event type; dropping"

/-- the operation of an event of the ERP system -/
def operation? (eventType : String) : Option Operation :=
  match Subject.parseEventType? eventType with
  | some (.erp, op) => some op
  | _ => none

/-- the instruction of a message, or the reason why there is none -/
def instruction (feed : Feed) (now : Instant) (payload : ByteArray) :
    Except String Instruction := do
  let e ← match Envelope.ofBytes? payload with
    | some e => .ok e
    | none => .error "Malformed event envelope; dropping"
  let _ ← e.validate.mapError fun _ => "Invalid event envelope; dropping"
  let op ← match operation? e.eventType with
    | some op => .ok op
    | none => .error "Unknown ERP event type; dropping"
  let a ← match Announcement.ofValue? e.payload with
    | some a => .ok a
    | none => .error "Malformed fabric payload; dropping"
  let c ← feed.command e.aggregateVersion op a
  return ⟨feed.invocation now e, c⟩

/-- the handling of a message: at most one command -/
def handle (feed : Feed) (now : Instant) (m : Message) : Work :=
  match feed.instruction now m.payload with
  | .error reason => drop reason
  | .ok i => .ask i settle

end Feed

end FabricRegistry.Inbound
