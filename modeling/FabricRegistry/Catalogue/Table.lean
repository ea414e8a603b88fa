import FabricRegistry.Catalogue.Basic

/-!
The catalogue in memory: a table of rows in the order in which their codes came up. Every request is
answered in one step.
-/

namespace FabricRegistry.Catalogue

/-- rows, each under its own code -/
structure Table where
  rows : List Fabric
  deriving DecidableEq, Repr, Inhabited

namespace Table

def empty : Table := ⟨[]⟩

def find? (t : Table) (code : Code) : Option Fabric := t.rows.find? fun row => row.code = code

/-- the rows with another row at the place of the one with its code, or at the end -/
def putRow (row : Fabric) : List Fabric → List Fabric
  | [] => [row]
  | r :: rest => if r.code = row.code then row :: rest else r :: putRow row rest

/-- the table with a row put in -/
def put (t : Table) (row : Fabric) : Table := ⟨putRow row t.rows⟩

/-- a new fabric, or the return of a deleted one -/
def save (t : Table) (f : Fabric) : Except Error Fabric × Table :=
  match t.find? f.code with
  | none => (.ok f, t.put f.settled)
  | some row =>
    if row.isActive then (.error (.duplicateCode f.code), t)
    else
      match row.reactivate f.details row.version with
      | .error e => (.error (.domain e), t)
      | .ok revived => (.ok revived, t.put revived.settled)

/-- the active row of a code -/
def findActive (t : Table) (code : Code) : Except Error Fabric :=
  match t.find? code with
  | some row => if row.isActive then .ok row else .error (.notFound code)
  | none => .error (.notFound code)

/-- the row of a code, deleted or not -/
def findAny (t : Table) (code : Code) : Except Error Fabric :=
  match t.find? code with
  | some row => .ok row
  | none => .error (.notFound code)

/-- the active row that a fabric at its version may replace -/
def writable (t : Table) (f : Fabric) : Except Error Fabric := do
  let previous ← previousVersion f
  match t.find? f.code with
  | some row =>
    if row.isActive ∧ row.version = previous then .ok row else .error (.notFound f.code)
  | none => .error (.notFound f.code)

/-- the details and version of a fabric -/
def update (t : Table) (f : Fabric) : Except Error Unit × Table :=
  match t.writable f with
  | .ok _ => (.ok (), t.put (.restore f.code f.details .active f.version))
  | .error e => (.error e, t)

/-- the end of a fabric, its row keeping the details it has -/
def delete (t : Table) (f : Fabric) : Except Error Unit × Table :=
  match t.writable f with
  | .ok row => (.ok (), t.put (.restore f.code row.details .deleted f.version))
  | .error e => (.error e, t)

/-- the reply to a request, and the table after it -/
def reply (t : Table) : (q : Request) → q.Reply × Table
  | .save f => t.save f
  | .findActive code => (t.findActive code, t)
  | .findAny code => (t.findAny code, t)
  | .update f => t.update f
  | .delete f => t.delete f

end Table

end FabricRegistry.Catalogue
