import FabricRegistry.Fabric.Fact

/-!
Fabrics and their life: created at version 1, updated while active, deleted, and brought back by a
reactivation that goes on counting versions. Every successful operation raises the version by one
and leaves one fact pending; a failed one changes nothing.
-/

namespace FabricRegistry

/-- a rule that an operation breaks -/
inductive FabricError where
  | validation (e : ValidationError)
  | alreadyDeleted (code : Code)
  /-- the caller knows another version than the current one -/
  | concurrencyConflict (code : Code) (expected actual : Nat)
  deriving DecidableEq, Repr

def FabricError.message : FabricError → String
  | validation e => e.message
  | alreadyDeleted code => s!"fabric {code} is already deleted"
  | concurrencyConflict code expected actual =>
    s!"concurrency conflict on fabric {code}: expected version {expected}, current version {actual}"

/-- why stored words make no fabric -/
inductive StoredError where
  | validation (e : ValidationError)
  | unknownStatus (word : String)
  deriving DecidableEq, Repr

/-- a fabric at one version, with the facts not yet recorded, oldest first -/
structure Fabric where
  code : Code
  details : Details
  status : Status
  version : Nat
  pending : List Fact
  deriving DecidableEq, Repr

namespace Fabric

/-- a fabric in use -/
def isActive (f : Fabric) : Bool := f.status = .active

/-- a fabric as it was stored -/
def restore (code : Code) (details : Details) (status : Status) (version : Nat) : Fabric :=
  { code, details, status, version, pending := [] }

/-- the fabric of a stored code and a stored status word; the code is checked before the status -/
def ofStored (code : String) (details : Details) (status : String) (version : Nat) :
    Except StoredError Fabric := do
  let code ← (Code.ofString code).mapError .validation
  match Status.ofString? status with
  | some status => return restore code details status version
  | none => throw (.unknownStatus status)

/-- the fabric without its pending facts -/
def settled (f : Fabric) : Fabric := { f with pending := [] }

/-- the pending facts, and the fabric without them -/
def takeFacts (f : Fabric) : List Fact × Fabric := (f.pending, f.settled)

theorem takeFacts_eq (f : Fabric) : f.takeFacts = (f.pending, { f with pending := [] }) := rfl

/-- The fabric one version later, with the fact of the change pending. -/
def advance (f : Fabric) (change : Change) : Fabric :=
  { code := f.code
    details := change.details?.getD f.details
    status := if change = .deleted then .deleted else .active
    version := f.version + 1
    pending := f.pending ++ [⟨f.code, f.version + 1, change⟩] }

/-- a new fabric; the code is checked before the name -/
def create (code : String) (details : Details) : Except FabricError Fabric := do
  let code ← (Code.ofString code).mapError .validation
  details.validate.mapError .validation
  return { code, details, status := .active, version := 1,
           pending := [⟨code, 1, .created details⟩] }

/-- the caller's version is the current one -/
def checkVersion (f : Fabric) (expected : Nat) : Except FabricError Unit :=
  if expected = f.version then .ok () else .error (.concurrencyConflict f.code expected f.version)

/-- other details for an active fabric -/
def update (f : Fabric) (details : Details) (expected : Nat) : Except FabricError Fabric :=
  if f.status = .deleted then .error (.alreadyDeleted f.code)
  else do
    f.checkVersion expected
    details.validate.mapError .validation
    return f.advance (.updated details)

/-- the end of an active fabric -/
def delete (f : Fabric) (expected : Nat) : Except FabricError Fabric :=
  if f.status = .deleted then .error (.alreadyDeleted f.code)
  else do
    f.checkVersion expected
    return f.advance .deleted

/-- the return of a deleted fabric with new details; an active fabric is updated -/
def reactivate (f : Fabric) (details : Details) (expected : Nat) : Except FabricError Fabric :=
  if f.status = .active then f.update details expected
  else do
    f.checkVersion expected
    details.validate.mapError .validation
    return f.advance (.reactivated details)

end Fabric

end FabricRegistry
