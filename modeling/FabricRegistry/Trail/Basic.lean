import FabricRegistry.Envelope

/-!
The trail holds the envelope of every fact, in batches that are recorded whole or not at all, and at
most one for each version of an aggregate. This module has what can be asked of a trail and how it
can fail.
-/

namespace FabricRegistry.Trail

/-- a failure of the trail -/
inductive Error where
  /-- the version of the aggregate has an envelope -/
  | concurrencyConflict (aggregateId : String) (version : Nat)
  | invalidEnvelope (e : EnvelopeError)
  /-- stored data is unreadable, or data does not fit the storage -/
  | serialization (reason : String)
  | storage (reason : String)
  deriving DecidableEq, Repr

namespace Error

def message : Error → String
  | concurrencyConflict id version =>
    s!"event for aggregate {id} at version {version} already exists"
  | invalidEnvelope e => "invalid envelope: " ++ e.message
  | serialization reason => s!"serialization error: {reason}"
  | storage reason => s!"storage error: {reason}"

/-- somebody else was first -/
def isConflict : Error → Bool
  | concurrencyConflict .. => true
  | _ => false

end Error

/-- what can be asked of a trail -/
inductive Request where
  /-- record a batch -/
  | append (batch : List Envelope)
  /-- read the envelopes of one aggregate by version -/
  | eventsOf (aggregateId : String)

abbrev Request.Answer : Request → Type
  | append _ => Unit
  | eventsOf _ => List Envelope

abbrev Request.Reply (q : Request) : Type := Except Error q.Answer

end FabricRegistry.Trail
