import FabricRegistry.Json.Reader

/-!
JSON values. An integer is kept as such between -2^63 and 2^64, any other number as a double; the
members of an object are in ascending order of their names, each name once. In a text a value may be
wrapped: an object whose first member has the name of a wrapping stands for the value of the text in
that member.
-/

namespace FabricRegistry.Json

/-- a JSON value -/
inductive Value where
  | null
  | bool (b : Bool)
  | int (n : Int)
  | double (x : Double)
  | string (s : String)
  | array (items : List Value)
  | object (members : List (String × Value))
  deriving BEq, Repr, Inhabited

/-- ascending order by code point -/
def precedes (a b : String) : Bool := a < b

/-- A member put at its place. A member of the same name is replaced. -/
def insertMember {α : Type} (key : String) (v : α) : List (String × α) → List (String × α)
  | [] => [(key, v)]
  | (k, w) :: rest =>
    if key = k then (key, v) :: rest
    else if precedes key k then (key, v) :: (k, w) :: rest
    else (k, w) :: insertMember key v rest

/-- members in ascending order, of several with one name the last -/
def sortMembers {α : Type} (members : List (String × α)) : List (String × α) :=
  members.foldl (fun sorted (key, v) => insertMember key v sorted) []

namespace Value

/-- an object of the members in any order -/
def ofMembers (members : List (String × Value)) : Value := .object (sortMembers members)

/-- containers may nest this deep -/
def maxDepth : Nat := 127

/-- the name of the one member of a wrapping, an object that holds the JSON text of a value -/
def wrappingName : String := "$serde_json::private::RawValue"

/-- An object is a wrapping when its first member has the name of one. -/
def isWrapping : List (List Piece × Tree) → Bool
  | (key, _) :: _ => Piece.text? key == some wrappingName
  | [] => false

/-- the text that a wrapping holds, none unless it has one member and that is a string -/
def wrappedText? : List (List Piece × Tree) → Option String
  | [(_, .string pieces)] => Piece.text? pieces
  | _ => none

mutual
/-- the value of a tree in which `unwrap?` reads the texts of wrappings, none with containers nested
deeper than `depth`, a number out of range or a string that spells nothing -/
def ofTreeWith? (unwrap? : String → Option Value) (depth : Nat) : Tree → Option Value
  | .null => some .null
  | .bool b => some (.bool b)
  | .number n =>
    match n.integer? with
    | some i => some (.int i)
    | none => n.double?.map .double
  | .string pieces => (Piece.text? pieces).map .string
  | .array items =>
    match depth with
    | 0 => none
    | depth + 1 => (itemsOfTrees? unwrap? depth items).map .array
  | .object members =>
    match depth with
    | 0 => none
    | depth + 1 =>
      if isWrapping members then wrappedText? members >>= unwrap?
      else (membersOfTrees? unwrap? depth members).map .ofMembers

/-- the values of the items of an array -/
def itemsOfTrees? (unwrap? : String → Option Value) (depth : Nat) :
    List Tree → Option (List Value)
  | [] => some []
  | t :: rest => do return (← ofTreeWith? unwrap? depth t) :: (← itemsOfTrees? unwrap? depth rest)

/-- the members of an object in the order of the text -/
def membersOfTrees? (unwrap? : String → Option Value) (depth : Nat) :
    List (List Piece × Tree) → Option (List (String × Value))
  | [] => some []
  | (key, t) :: rest => do
    return ((← Piece.text? key), (← ofTreeWith? unwrap? depth t)) ::
      (← membersOfTrees? unwrap? depth rest)
end

/-- the value of a text with wrappings inside each other fewer than `fuel` times -/
def ofTextWithin? : Nat → String → Option Value
  | 0, _ => none
  | fuel + 1, text => do ofTreeWith? (ofTextWithin? fuel) maxDepth (← Tree.ofText? text)

/-- The value of the text that a wrapping holds, in which nesting is counted anew. A text is longer
than any that is wrapped in it, so its length bounds the wrappings inside each other. -/
def unwrap? (text : String) : Option Value := ofTextWithin? (text.length + 1) text

/-- the value of a tree with containers nested no deeper than `depth` -/
def ofTree? (depth : Nat) (t : Tree) : Option Value := ofTreeWith? unwrap? depth t

def ofText? (text : String) : Option Value := do ofTree? maxDepth (← Tree.ofText? text)

end Value

end FabricRegistry.Json
