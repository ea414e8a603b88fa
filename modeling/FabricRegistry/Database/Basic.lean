import FabricRegistry.Dialogue
import FabricRegistry.Envelope

/-!
What the registry asks of a database: the statements it sends, with their parameters, and the
replies it understands. Statements between `begin` and `commit` take effect together or, after
`rollback`, not at all.
-/

namespace FabricRegistry.Database

/-- a stored value, or a parameter of a statement -/
inductive Cell where
  | null
  | text (s : String)
  /-- a whole number of 32 or 64 bits -/
  | int (n : Int)
  | uuid (id : EventId)
  /-- an instant, in microseconds since 1970 -/
  | timestamp (micros : Int)
  | json (v : Json.Value)
  deriving Repr

/-- a row of a reply, by column -/
abbrev Row : Type := List (String × Cell)

/-- the values that the columns of a fabric take -/
structure FabricRow where
  code : Code
  details : Details
  status : Status
  version : Int

/-- the values that the columns of a recorded envelope take -/
structure EventRow where
  id : EventId
  aggregateId : String
  aggregateType : String
  eventType : String
  aggregateVersion : Int
  eventVersion : Int
  payload : Json.Value
  micros : Int
  provenance : Provenance

/-- a statement with its parameters -/
inductive Statement where
  | begin
  | commit
  | rollback
  /-- a question that every database answers -/
  | ping
  /-- the active fabric of a code -/
  | selectActive (code : Code)
  /-- the fabric of a code -/
  | selectAny (code : Code)
  /-- the fabric of a code, kept from other writers until the transaction ends -/
  | selectForUpdate (code : Code)
  | insertFabric (row : FabricRow)
  /-- the columns of a fabric, where its version is `previous` -/
  | reactivateFabric (row : FabricRow) (previous : Int)
  /-- the details and the version, where the fabric is active and its version is `previous` -/
  | updateFabric (code : Code) (details : Details) (version previous : Int)
  /-- the end of a fabric, where it is active and its version is `previous` -/
  | deleteFabric (code : Code) (version previous : Int)
  | insertEvent (row : EventRow)
  /-- the envelopes of an aggregate by version -/
  | selectEvents (aggregateId : String)

namespace Statement

/-- the text with numbered parameters -/
def text : Statement → String
  | begin => "BEGIN"
  | commit => "COMMIT"
  | rollback => "ROLLBACK"
  | ping => "SELECT 1"
  | selectActive _ =>
    "SELECT code, name, measure_unit, offer_status, status, version FROM fabrics" ++
      " WHERE code = $1 AND status = 'ACTIVE'"
  | selectAny _ =>
    "SELECT code, name, measure_unit, offer_status, status, version FROM fabrics WHERE code = $1"
  | selectForUpdate _ =>
    "SELECT code, name, measure_unit, offer_status, status, version FROM fabrics" ++
      " WHERE code = $1 FOR UPDATE"
  | insertFabric _ =>
    "INSERT INTO fabrics (code, name, measure_unit, offer_status, status, version)" ++
      " VALUES ($1, $2, $3, $4, $5, $6)"
  | reactivateFabric _ _ =>
    "UPDATE fabrics SET name = $1, measure_unit = $2, offer_status = $3, status = $4," ++
      " version = $5, updated_at = NOW() WHERE code = $6 AND version = $7"
  | updateFabric .. =>
    "UPDATE fabrics SET name = $1, measure_unit = $2, offer_status = $3, version = $4," ++
      " updated_at = NOW() WHERE code = $5 AND version = $6 AND status = 'ACTIVE'"
  | deleteFabric .. =>
    "UPDATE fabrics SET status = 'DELETED', version = $1, updated_at = NOW()" ++
      " WHERE code = $2 AND version = $3 AND status = 'ACTIVE'"
  | insertEvent _ =>
    "INSERT INTO events ( event_id, aggregate_id, aggregate_type, event_type," ++
      " aggregate_version, event_version, payload, timestamp, correlation_id, causation_id," ++
      " user_id ) VALUES ($1, $2, $3, $4, $5, $6, $7, $8, $9, $10, $11)"
  | selectEvents _ =>
    "SELECT event_id, aggregate_id, aggregate_type, event_type, aggregate_version," ++
      " event_version, payload, timestamp, correlation_id, causation_id, user_id FROM events" ++
      " WHERE aggregate_id = $1 ORDER BY aggregate_version ASC"

/-- a text that may be missing -/
def optional : Option String → Cell
  | some s => .text s
  | none => .null

/-- the parameters in the order of their numbers -/
def params : Statement → List Cell
  | begin | commit | rollback | ping => []
  | selectActive code | selectAny code | selectForUpdate code => [.text code.text]
  | insertFabric r =>
    [.text r.code.text, .text r.details.name, .text r.details.measureUnit,
      .text r.details.offerStatus, .text r.status.text, .int r.version]
  | reactivateFabric r previous =>
    [.text r.details.name, .text r.details.measureUnit, .text r.details.offerStatus,
      .text r.status.text, .int r.version, .text r.code.text, .int previous]
  | updateFabric code details version previous =>
    [.text details.name, .text details.measureUnit, .text details.offerStatus, .int version,
      .text code.text, .int previous]
  | deleteFabric code version previous => [.int version, .text code.text, .int previous]
  | insertEvent r =>
    [.uuid r.id, .text r.aggregateId, .text r.aggregateType, .text r.eventType,
      .int r.aggregateVersion, .int r.eventVersion, .json r.payload, .timestamp r.micros,
      optional r.provenance.correlation, optional r.provenance.causation,
      optional r.provenance.user]
  | selectEvents id => [.text id]

end Statement

/-- why a statement has no reply -/
inductive Failure where
  /-- the database rejects it, with a code for the kind of error -/
  | rejected (sqlState message : String)
  /-- the pool of connections is closed -/
  | closedPool
  /-- no connection of the pool became free in time -/
  | poolTimedOut
  /-- the address of the database is not usable -/
  | badAddress (reason : String)
  deriving DecidableEq, Repr

namespace Failure

def message : Failure → String
  | rejected _ message => s!"error returned from database: {message}"
  | closedPool => "attempted to acquire a connection on a closed pool"
  | poolTimedOut => "pool timed out while waiting for an open connection"
  | badAddress reason => s!"error with configuration: {reason}"

/-- a row with the same key exists -/
def isUniqueViolation : Failure → Bool
  | rejected sqlState _ => sqlState == "23505"
  | _ => false

end Failure

/-- the reply to a statement: the rows it reads, or the number of rows it writes -/
structure Reply where
  rows : List Row := []
  affected : Nat := 1

abbrev Session (α : Type) : Type := Dialogue (fun _ : Statement => Except Failure Reply) α

/-- a statement whose failure is told in the caller's terms -/
def execute {ε : Type} (s : Statement) (failed : Failure → ε) : Session (Except ε Reply) :=
  .ask s fun
    | .ok reply => .done (.ok reply)
    | .error f => .done (.error (failed f))

/-- the end of a transaction that is given up -/
def abandon {ε α : Type} (e : ε) : Session (Except ε α) :=
  .ask .rollback fun _ => .done (.error e)

/-- Work between `begin` and `commit`. When the work or the commit fails, the transaction is given
up. -/
def transaction {ε α : Type} (beginFailed commitFailed : Failure → ε)
    (work : Session (Except ε α)) : Session (Except ε α) :=
  (execute .begin beginFailed).bind fun
    | .error e => .done (.error e)
    | .ok _ =>
      work.bind fun
        | .error e => abandon e
        | .ok a =>
          (execute .commit commitFailed).bind fun
            | .error e => abandon e
            | .ok _ => .done (.ok a)

/-- the greatest whole number of 64 bits -/
def maxBigint : Nat := Nat.pow 2 63 - 1

/-- the greatest whole number of 32 bits -/
def maxInteger : Nat := Nat.pow 2 31 - 1

/-- a version as it is stored -/
def storedVersion (version : Nat) : Except String Int :=
  if version ≤ maxBigint then .ok version else .error s!"version {version} exceeds BIGINT range"

/-- the version of a payload's form as it is stored -/
def storedEventVersion (version : Nat) : Except String Int :=
  if version ≤ maxInteger then .ok version
  else .error s!"event version {version} exceeds INTEGER range"

/-- the version that is stored -/
def loadedVersion (stored : Int) : Except String Nat :=
  if 0 ≤ stored then .ok stored.toNat else .error s!"stored version {stored} is negative"

/-- the version of a payload's form that is stored -/
def loadedEventVersion (stored : Int) : Except String Nat :=
  if 0 ≤ stored then .ok stored.toNat else .error s!"negative event version {stored}"

namespace Row

/-- the value of a column -/
def cell (row : Row) (column : String) : Except String Cell :=
  match row.lookup column with
  | some c => .ok c
  | none => .error s!"no column found for name: {column}"

/-- the words for a column whose value cannot be read -/
def undecodable (column reason : String) : String :=
  "error occurred while decoding column \"" ++ column ++ "\": " ++ reason

/-- the words for an unexpected null -/
def unexpectedNull (column : String) : String :=
  undecodable column "unexpected null; try decoding as an `Option`"

/-- the value of a column, read by `read` -/
def required {α : Type} (row : Row) (column : String) (read : Cell → Option α) :
    Except String α := do
  match ← row.cell column with
  | .null => .error (unexpectedNull column)
  | c =>
    match read c with
    | some a => .ok a
    | none => .error (undecodable column "mismatched types")

def text (row : Row) (column : String) : Except String String :=
  row.required column fun
    | .text s => some s
    | _ => none

def int (row : Row) (column : String) : Except String Int :=
  row.required column fun
    | .int n => some n
    | _ => none

def uuid (row : Row) (column : String) : Except String EventId :=
  row.required column fun
    | .uuid id => some id
    | _ => none

def timestamp (row : Row) (column : String) : Except String Timestamp :=
  row.required column fun
    | .timestamp micros => Timestamp.ofMicros? micros
    | _ => none

def json (row : Row) (column : String) : Except String Json.Value :=
  row.required column fun
    | .json v => some v
    | _ => none

/-- a text that may be missing -/
def optionalText (row : Row) (column : String) : Except String (Option String) := do
  match ← row.cell column with
  | .null => .ok none
  | _ => (row.text column).map some

end Row

end FabricRegistry.Database
