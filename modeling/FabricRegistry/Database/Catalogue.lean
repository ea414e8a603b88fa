import FabricRegistry.Catalogue.Basic
import FabricRegistry.Database.Basic

/-!
The catalogue in a database, in the table `fabrics`. What is written is conditioned on what is
stored, so that a stale writer writes no row; a new fabric is kept in one transaction with the look
at the row of its code.
-/

namespace FabricRegistry.Database

open FabricRegistry.Catalogue (Error Request)

/-- a failed step of the catalogue -/
def catalogueFailure (step : String) (f : Failure) : Error :=
  .storage (step ++ " failed: " ++ f.message)

/-- a row that cannot be read -/
def unreadableFabric (reason : String) : Error :=
  .storage s!"failed to decode fabric row: {reason}"

def fabricOfRow (row : Row) : Except Error Fabric := do
  let code ← (row.text "code").mapError unreadableFabric
  let status ← (row.text "status").mapError unreadableFabric
  let version ← (row.int "version").mapError unreadableFabric
  let code ← (Code.ofString code).mapError fun e =>
    .storage ("stored code is invalid: " ++ e.message)
  let status ← match Status.ofString? status with
    | some s => .ok s
    | none => .error (.storage (Status.unknownMessage status))
  let name ← (row.text "name").mapError unreadableFabric
  let measureUnit ← (row.text "measure_unit").mapError unreadableFabric
  let offerStatus ← (row.text "offer_status").mapError unreadableFabric
  let version ← (loadedVersion version).mapError .storage
  return .restore code { name, measureUnit, offerStatus } status version

/-- a version as it is stored -/
def catalogueVersion (version : Nat) : Except Error Int := (storedVersion version).mapError .storage

def rowOfFabric (f : Fabric) : Except Error FabricRow := do
  return ⟨f.code, f.details, f.status, ← catalogueVersion f.version⟩

/-- the fabric that a statement finds -/
def findFabric (s : Statement) (code : Code) : Session (Except Error Fabric) :=
  (execute s (catalogueFailure "load_fabric")).bind fun
    | .error e => .done (.error e)
    | .ok reply =>
      match reply.rows with
      | row :: _ => .done (fabricOfRow row)
      | [] => .done (.error (.notFound code))

/-- the return of a deleted fabric, within a transaction -/
def reviveFabric (existing f : Fabric) : Session (Except Error Fabric) :=
  match (existing.reactivate f.details existing.version).mapError Error.domain with
  | .error e => .done (.error e)
  | .ok revived =>
    match rowOfFabric revived, catalogueVersion existing.version with
    | .error e, _ => .done (.error e)
    | _, .error e => .done (.error e)
    | .ok row, .ok previous =>
      (execute (.reactivateFabric row previous) (catalogueFailure "reactivate_fabric")).bind fun
        | .error e => .done (.error e)
        | .ok _ =>
          (Dialogue.say .debug "Reactivated deleted fabric").bind fun _ => .done (.ok revived)

/-- a row for a new fabric, within a transaction -/
def insertFabric (f : Fabric) : Session (Except Error Fabric) :=
  match rowOfFabric f with
  | .error e => .done (.error e)
  | .ok row =>
    let failed (e : Failure) : Error :=
      if e.isUniqueViolation then .duplicateCode f.code else catalogueFailure "insert_fabric" e
    (execute (.insertFabric row) failed).bind fun
      | .error e => .done (.error e)
      | .ok _ => .done (.ok f)

/-- the transaction that keeps a new fabric -/
def saveFabric (f : Fabric) : Session (Except Error Fabric) :=
  transaction (catalogueFailure "begin_transaction") (catalogueFailure "commit_transaction") <|
    (execute (.selectForUpdate f.code) (catalogueFailure "lock_fabric")).bind fun
      | .error e => .done (.error e)
      | .ok reply =>
        match reply.rows with
        | [] => insertFabric f
        | row :: _ =>
          match fabricOfRow row with
          | .error e => .done (.error e)
          | .ok existing =>
            if existing.isActive then .done (.error (.duplicateCode f.code))
            else reviveFabric existing f

/-- a statement that writes one row or none -/
def writeFabric (s : Statement) (step : String) (code : Code) : Session (Except Error Unit) :=
  (execute s (catalogueFailure step)).bind fun
    | .error e => .done (.error e)
    | .ok reply => .done (if reply.affected = 0 then .error (.notFound code) else .ok ())

/-- the versions that a conditional write binds: the new one, and the one it must find -/
def boundVersions (f : Fabric) : Except Error (Int × Int) := do
  let previous ← Catalogue.previousVersion f
  return (← catalogueVersion f.version, ← catalogueVersion previous)

/-- the details and the version of a fabric -/
def updateFabric (f : Fabric) : Session (Except Error Unit) :=
  match boundVersions f with
  | .error e => .done (.error e)
  | .ok (version, previous) =>
    writeFabric (.updateFabric f.code f.details version previous) "update_fabric" f.code

def deleteFabric (f : Fabric) : Session (Except Error Unit) :=
  match boundVersions f with
  | .error e => .done (.error e)
  | .ok (version, previous) =>
    writeFabric (.deleteFabric f.code version previous) "delete_fabric" f.code

/-- the catalogue's reply to a request -/
def catalogue : (q : Request) → Session q.Reply
  | .save f => saveFabric f
  | .findActive code => findFabric (.selectActive code) code
  | .findAny code => findFabric (.selectAny code) code
  | .update f => updateFabric f
  | .delete f => deleteFabric f

end FabricRegistry.Database
