import FabricRegistry.Database.Basic
import FabricRegistry.Text.Decimal
import Mathlib.Data.List.Basic

/-!
The part of SQL that the registry writes. A query is read from the words of a statement's text, so
that what a statement means is decided by its text and its parameters and by nothing else. Main
statement: every statement has the query that `Statement.query` lists.
-/

namespace FabricRegistry.Database

/-- what a column is compared with or set to -/
inductive Operand where
  /-- the parameter of a number, counted from one -/
  | parameter (number : ℕ)
  | literal (s : String)
  /-- the time of the transaction -/
  | now
  deriving DecidableEq, Repr

/-- a query, without what only concerns other writers at the same time -/
inductive Query where
  | begin
  | commit
  | rollback
  /-- a constant, of no table -/
  | one
  /-- the columns of the rows that meet all conditions, in the order of a column if one is given -/
  | select (columns : List String) (table : String) (conditions : List (String × Operand))
    (order : Option String)
  | insert (table : String) (columns : List String) (values : List Operand)
  | update (table : String) (assignments conditions : List (String × Operand))
  deriving DecidableEq, Repr

/-! ### Words -/

/-- The words of a text, the first one begun with `word`. Words end at blanks; brackets and commas
are words of their own. -/
def wordsFrom (word : List Char) : List Char → List String
  | [] => ended
  | c :: rest =>
    if c = ' ' then ended ++ wordsFrom [] rest
    else if c ∈ ['(', ')', ','] then ended ++ String.singleton c :: wordsFrom [] rest
    else wordsFrom (word ++ [c]) rest
where
  ended : List String := if word = [] then [] else [String.ofList word]

/-- the words in front of the first `keyword`, and those behind it -/
def cutAt (keyword : String) (words : List String) : List String × List String :=
  (words.takeWhile (· ≠ keyword), (words.dropWhile (· ≠ keyword)).drop 1)

/-- the items of a list, each read by `read` -/
def readItems? {α : Type} (separator : String) (read : List String → Option α)
    (words : List String) : Option (List α) :=
  (words.splitOn separator).mapM read

def readName? : List String → Option String
  | [name] => some name
  | _ => none

def Operand.read? : List String → Option Operand
  | ["NOW", "(", ")"] => some .now
  | [word] =>
    match word.toList with
    | '$' :: number => (Text.readDigits? number).map .parameter
    | '\'' :: quoted =>
      if quoted.getLast? = some '\'' then some (.literal (String.ofList quoted.dropLast)) else none
    | _ => none
  | _ => none

/-- a column and what it is compared with or set to -/
def readEquation? : List String → Option (String × Operand)
  | column :: "=" :: operand => (Operand.read? operand).map (column, ·)
  | _ => none

/-- the column by which rows are ordered, ascending -/
def readOrder? : List String → Option (Option String)
  | [] => some none
  | ["BY", column, "ASC"] => some (some column)
  | _ => none

namespace Query

/-- the query of a sequence of words -/
def ofWords? : List String → Option Query
  | ["BEGIN"] => some .begin
  | ["COMMIT"] => some .commit
  | ["ROLLBACK"] => some .rollback
  | ["SELECT", "1"] => some .one
  | "SELECT" :: rest => do
    let (columns, rest) := cutAt "FROM" rest
    let (table, rest) := cutAt "WHERE" rest
    let (rest, order) := cutAt "ORDER" rest
    -- a lock keeps others from the rows and changes nothing else
    let (conditions, lock) := cutAt "FOR" rest
    if lock ∉ [[], ["UPDATE"]] then none
    return .select (← readItems? "," readName? columns) (← readName? table)
      (← readItems? "AND" readEquation? conditions) (← readOrder? order)
  | "INSERT" :: "INTO" :: table :: "(" :: rest => do
    let (columns, rest) := cutAt ")" rest
    let (head, rest) := cutAt "(" rest
    let (values, rest) := cutAt ")" rest
    if head ≠ ["VALUES"] ∨ rest ≠ [] then none
    return .insert table (← readItems? "," readName? columns)
      (← readItems? "," Operand.read? values)
  | "UPDATE" :: table :: "SET" :: rest => do
    let (assignments, conditions) := cutAt "WHERE" rest
    return .update table (← readItems? "," readEquation? assignments)
      (← readItems? "AND" readEquation? conditions)
  | _ => none

/-- the query that a text says -/
def read? (text : String) : Option Query := ofWords? (wordsFrom [] text.toList)

end Query

/-! ### The statements of the registry -/

/-- the columns of a fabric, in the order in which statements name them -/
def fabricColumns : List String :=
  ["code", "name", "measure_unit", "offer_status", "status", "version"]

/-- the columns of a recorded envelope, in the order in which statements name them -/
def eventColumns : List String :=
  ["event_id", "aggregate_id", "aggregate_type", "event_type", "aggregate_version",
    "event_version", "payload", "timestamp", "correlation_id", "causation_id", "user_id"]

open Operand (parameter literal) in
/-- the query that the text of a statement says -/
def Statement.query : Statement → Query
  | begin => .begin
  | commit => .commit
  | rollback => .rollback
  | ping => .one
  | selectActive _ =>
    .select fabricColumns "fabrics" [("code", parameter 1), ("status", literal "ACTIVE")] none
  | selectAny _ | selectForUpdate _ =>
    .select fabricColumns "fabrics" [("code", parameter 1)] none
  | insertFabric _ =>
    .insert "fabrics" fabricColumns
      [parameter 1, parameter 2, parameter 3, parameter 4, parameter 5, parameter 6]
  | reactivateFabric _ _ =>
    .update "fabrics"
      [("name", parameter 1), ("measure_unit", parameter 2), ("offer_status", parameter 3),
        ("status", parameter 4), ("version", parameter 5), ("updated_at", .now)]
      [("code", parameter 6), ("version", parameter 7)]
  | updateFabric .. =>
    .update "fabrics"
      [("name", parameter 1), ("measure_unit", parameter 2), ("offer_status", parameter 3),
        ("version", parameter 4), ("updated_at", .now)]
      [("code", parameter 5), ("version", parameter 6), ("status", literal "ACTIVE")]
  | deleteFabric .. =>
    .update "fabrics"
      [("status", literal "DELETED"), ("version", parameter 1), ("updated_at", .now)]
      [("code", parameter 2), ("version", parameter 3), ("status", literal "ACTIVE")]
  | insertEvent _ =>
    .insert "events" eventColumns
      [parameter 1, parameter 2, parameter 3, parameter 4, parameter 5, parameter 6, parameter 7,
        parameter 8, parameter 9, parameter 10, parameter 11]
  | selectEvents _ =>
    .select eventColumns "events" [("aggregate_id", parameter 1)] (some "aggregate_version")

/-- The characters of a text that is put together from pieces. The pieces of a literal are its
characters as they stand, so that no text is encoded or decoded on the way. -/
inductive Spelt : String → List Char → Prop where
  | ofList (cs : List Char) : Spelt (String.ofList cs) cs
  | append {s t : String} {cs ds : List Char} : Spelt s cs → Spelt t ds → Spelt (s ++ t) (cs ++ ds)

theorem Spelt.toList_eq {s : String} {cs : List Char} (h : Spelt s cs) : s.toList = cs := by
  induction h with
  | ofList cs => exact String.toList_ofList
  | append _ _ hs ht => rw [String.toList_append, hs, ht]

theorem Query.read?_of_spelt {text : String} {cs : List Char} {q : Query} (ht : Spelt text cs)
    (h : ofWords? (wordsFrom [] cs) = some q) : read? text = some q := by
  rw [read?, ht.toList_eq, h]

set_option maxRecDepth 4000 in
/-- **The text of a statement says its query.** -/
theorem Statement.read?_text (s : Statement) : Query.read? s.text = some s.query := by
  cases s <;>
    (unfold text query
     dsimp only
     apply Query.read?_of_spelt
     · repeat' first | exact .ofList _ | apply Spelt.append
     · decide +kernel)

end FabricRegistry.Database
