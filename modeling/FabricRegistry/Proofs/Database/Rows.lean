import FabricRegistry.Proofs.Database.Sql
import FabricRegistry.Proofs.Lookup
import Mathlib.Data.Int.Notation
import Mathlib.Logic.Function.Basic

/-!
Rows, tables and their rules, and what a connection sees of them. Conditions and assignments go by
the columns that they name, so what they make of a row can be read off any projection that has
these columns.
-/

namespace FabricRegistry.Database

/-! ### Rows -/

namespace Cell

/-- the equality of SQL among the values that the registry compares; a null equals nothing -/
def equals : Cell → Cell → Bool
  | text s, text t => s = t
  | int m, int n => m = n
  | uuid a, uuid b => a = b
  | _, _ => false

/-- the place of a whole number among whole numbers -/
def rank : Cell → ℤ
  | int n => n
  | _ => 0

def isNull : Cell → Bool
  | null => true
  | _ => false

end Cell

namespace Row

/-- the value of a column, null where the row has none -/
def value (row : Row) (column : String) : Cell := (row.lookup column).getD .null

/-- the row with the given columns -/
def project (columns : List String) (row : Row) : Row := columns.map fun c => (c, row.value c)

/-- the row with the columns of `row` that `values` does not have -/
def onto (values row : Row) : Row :=
  values ++ row.filter fun (c, _) => (values.lookup c).isNone

variable {columns : List String} {c : String}

theorem lookup_project (columns : List String) (row : Row) (c : String) :
    (row.project columns).lookup c = if c ∈ columns then some (row.value c) else none := by
  unfold project
  induction columns with
  | nil => simp
  | cons c' columns ih =>
    by_cases hc : c = c'
    · subst hc
      simp
    · have hne : (c == c') = false := by simpa using hc
      simp [List.lookup_cons, hne, ih, hc]

theorem value_project (row : Row) (hc : c ∈ columns) :
    (row.project columns).value c = row.value c := by
  rw [value, lookup_project, if_pos hc, Option.getD_some]

theorem project_project (row : Row) (columns : List String) :
    (row.project columns).project columns = row.project columns :=
  List.map_congr_left fun c hc => by rw [value_project row hc]

theorem value_onto (values row : Row) (c : String) :
    (values.onto row).value c = (values.lookup c).getD (row.value c) := by
  unfold value onto
  rw [List.lookup_append, lookup_filter (fun c => (values.lookup c).isNone)]
  cases values.lookup c <;> simp

/-- What is written over a row shows in a projection as if it was written over the projection. -/
theorem project_onto (values row : Row) (columns : List String) :
    (values.onto row).project columns = (values.onto (row.project columns)).project columns := by
  refine List.map_congr_left fun c hc => ?_
  rw [value_onto, value_onto, value_project row hc]

end Row

/-- the value of an operand, by the parameters and the time of the transaction -/
def Operand.value (ps : List Cell) (time : Cell) : Operand → Cell
  | parameter number => ps.getD (number - 1) .null
  | literal s => .text s
  | now => time

/-- the row meets every condition -/
def meets (ps : List Cell) (time : Cell) (conditions : List (String × Operand)) (row : Row) :
    Bool :=
  conditions.all fun (column, o) => (row.value column).equals (o.value ps time)

/-- Conditions only look at the columns that they name. -/
theorem meets_project {ps : List Cell} {time : Cell} {conditions : List (String × Operand)}
    {columns : List String} (h : ∀ p ∈ conditions, p.1 ∈ columns) (row : Row) :
    meets ps time conditions (row.project columns) = meets ps time conditions row := by
  rw [Bool.eq_iff_iff]
  simp only [meets, List.all_eq_true]
  refine forall₂_congr fun p hp => ?_
  rw [Row.value_project row (h p hp)]

/-- what the columns of a row are given -/
def given (ps : List Cell) (time : Cell) (values : List (String × Operand)) : Row :=
  values.map fun (column, o) => (column, o.value ps time)

/-- the row with what an update writes, where it meets the conditions -/
def updateRow (ps : List Cell) (time : Cell) (assignments conditions : List (String × Operand))
    (row : Row) : Row :=
  if meets ps time conditions row then (given ps time assignments).onto row else row

/-- What an update makes of a row shows in a projection as if the projection was updated. -/
theorem project_updateRow {ps : List Cell} {time : Cell}
    {assignments conditions : List (String × Operand)} {columns : List String}
    (h : ∀ p ∈ conditions, p.1 ∈ columns) (row : Row) :
    (updateRow ps time assignments conditions row).project columns =
      (updateRow ps time assignments conditions (row.project columns)).project columns := by
  unfold updateRow
  rw [meets_project h]
  split
  · exact Row.project_onto _ row columns
  · exact (Row.project_project row columns).symm

/-! ### Tables -/

/-- the rules of a table -/
structure Schema where
  /-- what the columns hold that an insertion does not name, by the time of the transaction -/
  defaults : Cell → Row := fun _ => []
  /-- the columns that hold no null -/
  required : List String := []
  /-- the columns that no two rows share -/
  keys : List (List String) := []
  check : Row → Bool := fun _ => true

namespace Schema

def fabrics : Schema where
  defaults time := [("created_at", time), ("updated_at", time)]
  required := fabricColumns
  keys := [["code"]]
  check row := ((row.value "status").equals (.text "ACTIVE") ||
    (row.value "status").equals (.text "DELETED")) && 1 ≤ (row.value "version").rank

def events : Schema where
  defaults _ := [("event_version", .int 1)]
  required := ["event_id", "aggregate_id", "aggregate_type", "event_type", "aggregate_version",
    "event_version", "payload", "timestamp"]
  keys := [["event_id"], ["aggregate_id", "aggregate_version"]]

/-- the rules of the table of a name -/
def named : String → Schema
  | "fabrics" => fabrics
  | "events" => events
  | _ => {}

/-- the rows have the same key -/
def sameKey (key : List String) (r r' : Row) : Bool :=
  key.all fun c => (r.value c).equals (r'.value c)

/-- the code of the first rule that rows break -/
def violation (s : Schema) (rows : List Row) : Option String :=
  if rows.any fun r => s.required.any fun c => (r.value c).isNull then some "23502"
  else if rows.any fun r => !s.check r then some "23514"
  else if ∀ key ∈ s.keys, rows.Pairwise fun r r' => sameKey key r r' = false then none
  else some "23505"

end Schema

/-- the rows of every table -/
abbrev Tables : Type := String → List Row

/-- what stands between a connection and the tables that all see -/
inductive Work where
  | idle
  /-- a transaction, with the tables as it has written them -/
  | active (t : Tables)
  /-- a transaction that can only be given up -/
  | failed

/-- the tables that all see, and the work of the connection -/
structure View where
  committed : Tables
  work : Work

namespace View

/-- the tables that a query works on -/
def tables? (v : View) : Option Tables :=
  match v.work with
  | .idle => some v.committed
  | .active t => some t
  | .failed => none

def opened (v : View) : View :=
  match v.work with
  | .idle => { v with work := .active v.committed }
  | _ => v

/-- the end of a transaction, its writes kept -/
def closed (v : View) : View :=
  match v.work with
  | .active t => ⟨t, .idle⟩
  | _ => { v with work := .idle }

/-- the end of a transaction, its writes given up -/
def dropped (v : View) : View := { v with work := .idle }

/-- other rows in a table -/
def write (v : View) (table : String) (rows : List Row) : View :=
  match v.work with
  | .active t => { v with work := .active (Function.update t table rows) }
  | _ => { v with committed := Function.update v.committed table rows }

/-- A query that breaks a rule takes the transaction with it. -/
def rejected (v : View) : View :=
  match v.work with
  | .active _ => { v with work := .failed }
  | _ => v

end View

/-! ### Rows that show a list -/

/-- Row for row, the columns have the values that `cells` gives the items of a list. -/
def Shown {α : Type} (columns : List String) (cells : α → Row) (rows : List Row) (xs : List α) :
    Prop :=
  rows.map (Row.project columns) = xs.map cells

namespace Shown

variable {α : Type} {columns : List String} {cells : α → Row} {rows : List Row} {xs : List α}
  {r : Row} {x : α} {ps : List Cell} {time : Cell} {conditions : List (String × Operand)}

theorem of_mem (h : Shown columns cells rows xs) (hr : r ∈ rows) :
    ∃ x ∈ xs, ∀ c ∈ columns, r.value c = (cells x).value c := by
  have hmem : r.project columns ∈ xs.map cells := h ▸ List.mem_map_of_mem hr
  obtain ⟨x, hx, hproject⟩ := List.mem_map.mp hmem
  exact ⟨x, hx, fun c hc => by rw [hproject, Row.value_project r hc]⟩

/-- The rows that meet conditions show the items that meet them. -/
theorem filter (h : Shown columns cells rows xs) (hc : ∀ p ∈ conditions, p.1 ∈ columns) :
    Shown columns cells (rows.filter (meets ps time conditions))
      (xs.filter fun x => meets ps time conditions (cells x)) := by
  have hleft : (rows.map (Row.project columns)).filter (meets ps time conditions) =
      (rows.filter (meets ps time conditions)).map (Row.project columns) := by
    rw [List.filter_map]
    exact congrArg _ (List.filter_congr fun r _ => meets_project hc r)
  unfold Shown
  rw [← hleft, h, List.filter_map]
  rfl

theorem concat (h : Shown columns cells rows xs) (hr : r.project columns = cells x) :
    Shown columns cells (rows ++ [r]) (xs ++ [x]) := by
  unfold Shown
  rw [List.map_append, List.map_append, h, List.map_singleton, List.map_singleton, hr]

/-- The rows after an update show the items after it. -/
theorem update (h : Shown columns cells rows xs) (hc : ∀ p ∈ conditions, p.1 ∈ columns)
    {assignments : List (String × Operand)} {u : α → α}
    (hu : ∀ x, (updateRow ps time assignments conditions (cells x)).project columns =
      cells (u x)) :
    Shown columns cells (rows.map (updateRow ps time assignments conditions)) (xs.map u) := by
  calc (rows.map (updateRow ps time assignments conditions)).map (Row.project columns)
      = (rows.map (Row.project columns)).map fun r =>
          (updateRow ps time assignments conditions r).project columns := by
        simp only [List.map_map]
        exact List.map_congr_left fun r _ => project_updateRow hc r
    _ = (xs.map u).map cells := by
        rw [h, List.map_map, List.map_map]
        exact List.map_congr_left fun x _ => hu x

/-- Rows that hold no null where none may stand and pass the check break no rule but a key. -/
theorem violation_eq (h : Shown columns cells rows xs) {s : Schema}
    (hrequired : ∀ c ∈ s.required, c ∈ columns ∧ ∀ x, ((cells x).value c).isNull = false)
    (hcheck : ∀ r, ∀ x ∈ xs, (∀ c ∈ columns, r.value c = (cells x).value c) → s.check r = true)
    (hkeys : ∀ key ∈ s.keys, ∀ c ∈ key, c ∈ columns) :
    s.violation rows =
      if ∀ key ∈ s.keys, xs.Pairwise fun x y => Schema.sameKey key (cells x) (cells y) = false then
        none
      else some "23505" := by
  have hnull : ¬ rows.any fun r => s.required.any fun c => (r.value c).isNull := by
    simp only [List.any_eq_true, not_exists, not_and, Bool.not_eq_true]
    intro r hr c hc
    obtain ⟨x, -, hvalue⟩ := h.of_mem hr
    rw [hvalue c (hrequired c hc).1]
    exact (hrequired c hc).2 x
  have hchecked : ¬ rows.any fun r => !s.check r := by
    simp only [List.any_eq_true, not_exists, not_and, Bool.not_eq_true', Bool.not_eq_false]
    intro r hr
    obtain ⟨x, hx, hvalue⟩ := h.of_mem hr
    exact hcheck r x hx hvalue
  have hsame : ∀ key ∈ s.keys, ∀ r r' : Row,
      Schema.sameKey key (r.project columns) (r'.project columns) = Schema.sameKey key r r' := by
    intro key hkey r r'
    rw [Bool.eq_iff_iff]
    simp only [Schema.sameKey, List.all_eq_true]
    refine forall₂_congr fun c hc => ?_
    rw [Row.value_project r (hkeys key hkey c hc), Row.value_project r' (hkeys key hkey c hc)]
  have hpairs : ∀ key ∈ s.keys, (rows.Pairwise fun r r' => Schema.sameKey key r r' = false) ↔
      xs.Pairwise fun x y => Schema.sameKey key (cells x) (cells y) = false := by
    intro key hkey
    have hmap : ((rows.map (Row.project columns)).Pairwise fun r r' =>
        Schema.sameKey key r r' = false) ↔
          rows.Pairwise fun r r' => Schema.sameKey key r r' = false := by
      rw [List.pairwise_map]
      simp only [hsame key hkey]
    rw [← hmap, show rows.map (Row.project columns) = xs.map cells from h, List.pairwise_map]
  unfold Schema.violation
  rw [if_neg hnull, if_neg hchecked]
  simp only [forall₂_congr hpairs]

end Shown

end FabricRegistry.Database
