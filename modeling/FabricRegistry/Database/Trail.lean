import FabricRegistry.Database.Basic
import FabricRegistry.Trail.Basic

/-!
The trail in a database, in the table `events`. A batch is one transaction of an insertion for each
envelope; the table's unique key on aggregate and version tells a conflict.
-/

namespace FabricRegistry.Database

open FabricRegistry.Trail (Error Request)

/-- a failed step of the trail -/
def trailFailure (step : String) (f : Failure) : Error :=
  .storage (step ++ " failed: " ++ f.message)

/-- the first lack among the envelopes of a batch -/
def validateBatch : List Envelope → Except Error Unit
  | [] => .ok ()
  | e :: rest => do
    e.validate.mapError .invalidEnvelope
    validateBatch rest

/-- the row of an envelope; what is finer than a microsecond is not stored -/
def rowOfEnvelope (e : Envelope) : Except Error EventRow := do
  let aggregateVersion ← (storedVersion e.aggregateVersion).mapError .storage
  let eventVersion ← (storedEventVersion e.eventVersion).mapError .serialization
  return { id := e.id, aggregateId := e.aggregateId, aggregateType := e.aggregateType,
           eventType := e.eventType, aggregateVersion, eventVersion, payload := e.payload,
           micros := e.time.micros, provenance := e.provenance }

/-- one insertion for each envelope, within a transaction -/
def insertEvents : List Envelope → Session (Except Error Unit)
  | [] => .done (.ok ())
  | e :: rest =>
    match rowOfEnvelope e with
    | .error err => .done (.error err)
    | .ok row =>
      let failed (f : Failure) : Error :=
        if f.isUniqueViolation then .concurrencyConflict e.aggregateId e.aggregateVersion
        else trailFailure "insert_event" f
      (execute (.insertEvent row) failed).bind fun
        | .error err => .done (.error err)
        | .ok _ => insertEvents rest

/-- the transaction that records a batch -/
def appendEvents (batch : List Envelope) : Session (Except Error Unit) :=
  if batch.isEmpty then .done (.ok ())
  else
    match validateBatch batch with
    | .error e => .done (.error e)
    | .ok _ =>
      (transaction (trailFailure "begin_transaction") (trailFailure "commit_transaction")
        (insertEvents batch)).bind fun
        | .error e => .done (.error e)
        | .ok _ => (Dialogue.say .debug "Appended events").bind fun _ => .done (.ok ())

/-- a row that cannot be read -/
def unreadableEvent (reason : String) : Error :=
  .serialization s!"failed to decode event row: {reason}"

def envelopeOfRow (row : Row) : Except Error Envelope := do
  let aggregateVersion ← (row.int "aggregate_version").mapError unreadableEvent
  let eventVersion ← (row.int "event_version").mapError unreadableEvent
  let id ← (row.uuid "event_id").mapError unreadableEvent
  let eventType ← (row.text "event_type").mapError unreadableEvent
  let aggregateId ← (row.text "aggregate_id").mapError unreadableEvent
  let aggregateType ← (row.text "aggregate_type").mapError unreadableEvent
  let aggregateVersion ← (loadedVersion aggregateVersion).mapError .serialization
  let eventVersion ← (loadedEventVersion eventVersion).mapError .serialization
  let time ← (row.timestamp "timestamp").mapError unreadableEvent
  let correlation ← (row.optionalText "correlation_id").mapError unreadableEvent
  let causation ← (row.optionalText "causation_id").mapError unreadableEvent
  let user ← (row.optionalText "user_id").mapError unreadableEvent
  let payload ← (row.json "payload").mapError unreadableEvent
  return { id, eventType, aggregateId, aggregateType, aggregateVersion, eventVersion, time,
           provenance := { correlation, causation, user }, payload }

/-- the envelopes of an aggregate, by version -/
def selectEvents (aggregateId : String) : Session (Except Error (List Envelope)) :=
  (execute (.selectEvents aggregateId) (trailFailure "load_events")).bind fun
    | .error e => .done (.error e)
    | .ok reply => .done (reply.rows.mapM envelopeOfRow)

/-- the trail's reply to a request -/
def trail : (q : Request) → Session q.Reply
  | .append batch => appendEvents batch
  | .eventsOf id => selectEvents id

end FabricRegistry.Database
