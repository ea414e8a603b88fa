import FabricRegistry.Json.Value

/-!
Records read from JSON. A record with fields of given names is an object, in which members of other
names are skipped whatever they hold, or an array of the fields in their order. Read from a text, a
field may be given once only and every name must spell a text; in a value each name occurs once
anyway.
-/

namespace FabricRegistry.Json

/-- what each field of a record was given, a field left out being absent -/
abbrev Fields (α : Type) := List (String × α)

/-- no name occurs twice -/
def distinctNames {α : Type} : Fields α → Bool
  | [] => true
  | (name, _) :: rest => !(rest.any fun (other, _) => other == name) && distinctNames rest

/-- the members with their names spelled out -/
def spellNames? {α : Type} : List (List Piece × α) → Option (Fields α)
  | [] => some []
  | (key, t) :: rest => do return ((← Piece.text? key), t) :: (← spellNames? rest)

/-- the fields of a record of a text -/
def Tree.fields? (names : List String) : Tree → Option (Fields Tree)
  | .object members => do
    let named := (← spellNames? members).filter fun (name, _) => names.contains name
    if distinctNames named then some named else none
  | .array items => if items.length ≤ names.length then some (names.zip items) else none
  | _ => none

/-- the fields of a record of a value -/
def Value.fields? (names : List String) : Value → Option (Fields Value)
  | .object members => some (members.filter fun (name, _) => names.contains name)
  | .array items => if items.length ≤ names.length then some (names.zip items) else none
  | _ => none

namespace Tree

def string? : Tree → Option String
  | .string pieces => Piece.text? pieces
  | _ => none

/-- a text, or none for null -/
def optionalString? : Tree → Option (Option String)
  | .null => some none
  | t => t.string?.map some

def natural? (bound : Nat) : Tree → Option Nat
  | .number n => n.below? bound
  | _ => none

end Tree

namespace Value

def string? : Value → Option String
  | .string s => some s
  | _ => none

/-- a text, or none for null -/
def optionalString? : Value → Option (Option String)
  | .null => some none
  | v => v.string?.map some

def natural? (bound : Nat) : Value → Option Nat
  | .int (.ofNat n) => if n < bound then some n else none
  | _ => none

end Value

namespace Fields

variable {α β : Type}

/-- the value of a field that must be given -/
def required? (fields : Fields α) (name : String) (read : α → Option β) : Option β := do
  read (← fields.lookup name)

/-- the value of a field that has a default -/
def withDefault? (fields : Fields α) (name : String) (default : β) (read : α → Option β) :
    Option β :=
  match fields.lookup name with
  | none => some default
  | some given => read given

theorem withDefault?_eq_some_iff {fields : Fields α} {name : String} {default v : β}
    {read : α → Option β} : fields.withDefault? name default read = some v ↔
      fields.lookup name = none ∧ v = default ∨
        ∃ given, fields.lookup name = some given ∧ read given = some v := by
  unfold withDefault?
  cases fields.lookup name <;> simp [eq_comm]

end Fields

end FabricRegistry.Json
