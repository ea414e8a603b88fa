import FabricRegistry.Fabric.Basic

/-!
The catalogue holds the current state of every fabric, one row for a code, never removed. This
module has what can be asked of a catalogue and how it can fail; a row is written only from the
version before, so a stale writer finds no row to write.
-/

namespace FabricRegistry.Catalogue

/-- a failure of the catalogue -/
inductive Error where
  /-- an active row has the code -/
  | duplicateCode (code : Code)
  /-- no row to read or to write -/
  | notFound (code : Code)
  /-- a deleted row rejects the new details -/
  | domain (e : FabricError)
  /-- the storage fails, or holds something unreadable -/
  | storage (reason : String)
  deriving DecidableEq, Repr

def Error.message : Error → String
  | duplicateCode code => s!"fabric code {code} already exists"
  | notFound code => s!"fabric {code} not found"
  | domain e => e.message
  | storage reason => s!"storage error: {reason}"

/-- what can be asked of a catalogue -/
inductive Request where
  /-- keep a new fabric, or bring the deleted one with its code back with its details -/
  | save (f : Fabric)
  | findActive (code : Code)
  | findAny (code : Code)
  /-- write the details and version of an active row that is one version behind -/
  | update (f : Fabric)
  /-- mark an active row that is one version behind as deleted -/
  | delete (f : Fabric)
  deriving DecidableEq, Repr

abbrev Request.Answer : Request → Type
  | save _ => Fabric
  | findActive _ => Fabric
  | findAny _ => Fabric
  | update _ => Unit
  | delete _ => Unit

abbrev Request.Reply (q : Request) : Type := Except Error q.Answer

/-- the version that a row must have to be written with this fabric -/
def previousVersion (f : Fabric) : Except Error Nat :=
  if 2 ≤ f.version then .ok (f.version - 1) else .error (.notFound f.code)

end FabricRegistry.Catalogue
