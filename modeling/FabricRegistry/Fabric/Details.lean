import FabricRegistry.Fabric.Code
import FabricRegistry.Json.Printer
import FabricRegistry.Json.Record

/-!
What is known of a fabric apart from its code, and whether it is on offer.
-/

namespace FabricRegistry

/-- the attributes of a fabric, as a caller gives them -/
structure Details where
  name : String
  measureUnit : String
  offerStatus : String
  deriving DecidableEq, Repr, Inhabited

namespace Details

/-- A name has 1 to 250 characters. -/
def validate (d : Details) : Except ValidationError Unit :=
  if 1 ≤ d.name.length ∧ d.name.length ≤ 250 then .ok ()
  else .error (.nameLength d.name.length)

/-- the members of a JSON object -/
def members (d : Details) : List (String × Json.Value) :=
  [("name", .string d.name), ("measure_unit", .string d.measureUnit),
    ("offer_status", .string d.offerStatus)]

def text (d : Details) : String := Json.recordText d.members

/-- the details that a syntax tree denotes -/
def ofTree? (t : Json.Tree) : Option Details := do
  let fields ← t.fields? ["name", "measure_unit", "offer_status"]
  return {
    name := ← fields.required? "name" Json.Tree.string?
    measureUnit := ← fields.required? "measure_unit" Json.Tree.string?
    offerStatus := ← fields.required? "offer_status" Json.Tree.string? }

/-- the details that a JSON text denotes -/
def ofText? (text : String) : Option Details := do ofTree? (← Json.Tree.ofText? text)

end Details

/-- whether a fabric is in use -/
inductive Status where
  | active
  | deleted
  deriving DecidableEq, Repr

namespace Status

def text : Status → String
  | active => "ACTIVE"
  | deleted => "DELETED"

/-- the status that a word stands for -/
def ofString? : String → Option Status
  | "ACTIVE" => some .active
  | "DELETED" => some .deleted
  | _ => none

/-- the words for a word that stands for none -/
def unknownMessage (word : String) : String := s!"unknown fabric status: {word}"

theorem ofString?_text (s : Status) : ofString? s.text = some s := by
  cases s <;> rfl

end Status

end FabricRegistry
