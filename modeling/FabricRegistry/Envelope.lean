import FabricRegistry.EventId
import FabricRegistry.Fabric.Fact
import FabricRegistry.Timestamp

/-!
Envelopes: one fact with its identity, its place in the history of its fabric, and where it came
from. The same JSON object is recorded, published and expected from the ERP system.
-/

namespace FabricRegistry

/-- what an envelope lacks -/
inductive EnvelopeError where
  | missingEventType
  | missingAggregateId
  | missingAggregateType
  | missingPayload
  deriving DecidableEq, Repr

def EnvelopeError.message : EnvelopeError → String
  | missingEventType => "event type is required"
  | missingAggregateId => "aggregate ID is required"
  | missingAggregateType => "aggregate type is required"
  | missingPayload => "payload is required"

/-- where a fact came from -/
structure Provenance where
  /-- shared by everything that one request set off -/
  correlation : Option String := none
  /-- the request or event that was the immediate cause -/
  causation : Option String := none
  /-- who acted -/
  user : Option String := none
  deriving DecidableEq, Repr, Inhabited

/-- a fresh identity and the time at which it was given -/
structure Stamp where
  id : EventId
  time : Timestamp
  deriving DecidableEq, Repr, Inhabited

/-- one fact, ready to be recorded or sent -/
structure Envelope where
  id : EventId
  eventType : String
  aggregateId : String
  aggregateType : String
  aggregateVersion : Nat
  /-- the version of the form of the payload -/
  eventVersion : Nat
  time : Timestamp
  provenance : Provenance
  payload : Json.Value
  deriving BEq, Repr, Inhabited

namespace Envelope

/-- the version of the form that new envelopes have -/
def currentEventVersion : Nat := 1

/-- the aggregate type of everything that concerns a fabric -/
def fabricType : String := "fabric"

def new (stamp : Stamp) (eventType aggregateId aggregateType : String) (aggregateVersion : Nat)
    (payload : Json.Value) (provenance : Provenance) : Envelope :=
  { id := stamp.id, eventType, aggregateId, aggregateType, aggregateVersion,
    eventVersion := currentEventVersion, time := stamp.time, provenance, payload }

def ofFact (stamp : Stamp) (f : Fact) (provenance : Provenance) : Envelope :=
  new stamp f.eventType f.code.text fabricType f.version f.body provenance

/-- neither null nor an object without members -/
def hasContent : Json.Value → Bool
  | .null => false
  | .object [] => false
  | _ => true

/-- the first thing that the envelope lacks -/
def validate (e : Envelope) : Except EnvelopeError Unit :=
  if e.eventType = "" then .error .missingEventType
  else if e.aggregateId = "" then .error .missingAggregateId
  else if e.aggregateType = "" then .error .missingAggregateType
  else if hasContent e.payload then .ok ()
  else .error .missingPayload

/-- the fact's place in the histories: its aggregate and the version that it led to -/
def key (e : Envelope) : String × Nat := (e.aggregateId, e.aggregateVersion)

/-- a member for a text that is there -/
def optionalMember (name : String) : Option String → List (String × Json.Value)
  | some s => [(name, .string s)]
  | none => []

/-- the members of the JSON object, in the order in which they are written -/
def members (e : Envelope) : List (String × Json.Value) :=
  [("event_id", .string e.id.text), ("event_type", .string e.eventType),
    ("aggregate_id", .string e.aggregateId), ("aggregate_type", .string e.aggregateType),
    ("aggregate_version", .int e.aggregateVersion), ("event_version", .int e.eventVersion),
    ("timestamp", .string e.time.text)] ++
  optionalMember "correlation_id" e.provenance.correlation ++
  optionalMember "causation_id" e.provenance.causation ++
  optionalMember "user_id" e.provenance.user ++
  [("payload", e.payload)]

def text (e : Envelope) : String := Json.recordText e.members

def bytes (e : Envelope) : ByteArray := e.text.toUTF8

/-- the names of the members, in their order -/
def fieldNames : List String :=
  ["event_id", "event_type", "aggregate_id", "aggregate_type", "aggregate_version",
    "event_version", "timestamp", "correlation_id", "causation_id", "user_id", "payload"]

/-- the envelope of the given fields -/
def ofFields? (fields : Json.Fields Json.Tree) : Option Envelope := do
  return {
    id := ← fields.required? "event_id" fun t => t.string? >>= EventId.parse?
    eventType := ← fields.required? "event_type" Json.Tree.string?
    aggregateId := ← fields.required? "aggregate_id" Json.Tree.string?
    aggregateType := ← fields.required? "aggregate_type" Json.Tree.string?
    aggregateVersion := ← fields.withDefault? "aggregate_version" 0 (Json.Tree.natural? UInt64.size)
    eventVersion :=
      ← fields.withDefault? "event_version" currentEventVersion (Json.Tree.natural? UInt32.size)
    time := ← fields.required? "timestamp" fun t => t.string? >>= Timestamp.parse?
    provenance := {
      correlation := ← fields.withDefault? "correlation_id" none Json.Tree.optionalString?
      causation := ← fields.withDefault? "causation_id" none Json.Tree.optionalString?
      user := ← fields.withDefault? "user_id" none Json.Tree.optionalString? }
    payload :=
      ← fields.withDefault? "payload" .null (Json.Value.ofTree? (Json.Value.maxDepth - 1)) }

/-- the envelope that a syntax tree denotes -/
def ofTree? (t : Json.Tree) : Option Envelope := do ofFields? (← t.fields? fieldNames)

/-- the envelope that a JSON text in bytes denotes -/
def ofBytes? (bytes : ByteArray) : Option Envelope := do ofTree? (← Json.Tree.ofBytes? bytes)

/-- the envelope that a JSON text denotes -/
def ofText? (text : String) : Option Envelope := do ofTree? (← Json.Tree.ofText? text)

end Envelope

end FabricRegistry
