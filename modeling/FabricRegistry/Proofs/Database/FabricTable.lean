import FabricRegistry.Proofs.Catalogue.Keyed
import FabricRegistry.Proofs.Database.Engine
import FabricRegistry.Proofs.Database.Reading

/-!
The table `fabrics` against the table in memory. A statement finds and writes the rows that it
would find and write if the rows in memory were stored, and what it writes breaks no rule of the
table.
-/

namespace FabricRegistry.Database

open Catalogue (Table)

/-! ### Rows of fabrics -/

/-- the columns of a fabric -/
def fabricRow (f : Fabric) : Row :=
  [("code", .text f.code.text), ("name", .text f.details.name),
    ("measure_unit", .text f.details.measureUnit), ("offer_status", .text f.details.offerStatus),
    ("status", .text f.status.text), ("version", .int f.version)]

/-- The table `fabrics` has the rows of a table in memory, in the same order. -/
def Holds (T : Tables) (t : Table) : Prop :=
  Shown fabricColumns fabricRow (T "fabrics") t.rows

variable {T : Tables} {t t' : Table} {f row : Fabric} {code : Code} {v v' : View}
  {ps : List Cell} {time : Cell}

@[simp] theorem value_code (f : Fabric) : (fabricRow f).value "code" = .text f.code.text := rfl

@[simp] theorem value_name (f : Fabric) : (fabricRow f).value "name" = .text f.details.name := rfl

@[simp] theorem value_measureUnit (f : Fabric) :
    (fabricRow f).value "measure_unit" = .text f.details.measureUnit := rfl

@[simp] theorem value_offerStatus (f : Fabric) :
    (fabricRow f).value "offer_status" = .text f.details.offerStatus := rfl

@[simp] theorem value_status (f : Fabric) : (fabricRow f).value "status" = .text f.status.text :=
  rfl

@[simp] theorem value_version (f : Fabric) : (fabricRow f).value "version" = .int f.version := rfl

/-- A row shows a fabric when each of its columns does. -/
theorem project_eq_fabricRow_iff {r : Row} : r.project fabricColumns = fabricRow f ↔
    r.value "code" = .text f.code.text ∧ r.value "name" = .text f.details.name ∧
      r.value "measure_unit" = .text f.details.measureUnit ∧
      r.value "offer_status" = .text f.details.offerStatus ∧
      r.value "status" = .text f.status.text ∧ r.value "version" = .int f.version := by
  simp [Row.project, fabricColumns, fabricRow]

theorem fabricRow_settled (f : Fabric) : fabricRow f.settled = fabricRow f := rfl

@[simp] theorem equals_code (a b : Code) :
    (Cell.text a.text).equals (.text b.text) = decide (a = b) := by
  rw [Bool.eq_iff_iff]
  simpa [Cell.equals] using ⟨Code.text_injective, congrArg Code.text⟩

@[simp] theorem equals_active (s : Status) :
    (Cell.text s.text).equals (.text "ACTIVE") = decide (s = .active) := by
  cases s <;> decide

@[simp] theorem equals_version (m n : ℕ) :
    (Cell.int m).equals (.int n) = decide (m = n) := decide_eq_decide.mpr Int.ofNat_inj

/-- Reading a row gives the fabric back. -/
theorem fabricOfRow_fabricRow (hp : f.pending = []) : fabricOfRow (fabricRow f) = .ok f :=
  fabricOfRow_eq_ok_iff.mpr ⟨rfl, rfl, rfl, rfl, rfl, rfl, hp⟩

/-! ### Reading -/

/-- What a query by a code and a further condition finds. -/
theorem map_project_of_perm {conditions : List (String × Operand)} {g : Fabric → Bool}
    {found : List Row} (ht : t.Keyed) (h : Holds T t)
    (hc : ∀ p ∈ conditions, p.1 ∈ fabricColumns)
    (hm : ∀ f, meets ps time conditions (fabricRow f) = (decide (f.code = code) && g f))
    (hp : found.Perm ((T "fabrics").filter (meets ps time conditions))) :
    found.map (Row.project fabricColumns) = ((t.find? code).filter g).toList.map fabricRow := by
  have hrows : t.rows.filter (fun f => meets ps time conditions (fabricRow f)) =
      ((t.find? code).filter g).toList := by
    simp only [hm, Bool.and_comm (decide _), ← List.filter_filter, ht.filter_code]
    cases t.find? code <;> simp [Option.filter, List.filter_cons]
    split <;> rfl
  have hmap := hp.map (Row.project fabricColumns)
  rw [h.filter hc, hrows] at hmap
  cases hfind : (t.find? code).filter g with
  | none => simpa [hfind] using hmap
  | some row => simpa [hfind] using hmap

theorem answers_fabric {s : Statement} {conditions : List (String × Operand)} {g : Fabric → Bool}
    {reply : Except Failure Reply} (ht : t.Keyed) (h : Holds T t) (hv : v.tables? = some T)
    (hs : s.query = .select fabricColumns "fabrics" conditions none)
    (hc : ∀ p ∈ conditions, p.1 ∈ fabricColumns)
    (hm : ∀ time f, meets s.params time conditions (fabricRow f) = (decide (f.code = code) && g f))
    (hr : Answers s.params v s.query reply v') :
    v' = v ∧ ∃ n, reply = .ok ⟨((t.find? code).filter g).toList.map fabricRow, n⟩ := by
  rw [hs] at hr
  obtain ⟨rfl, micros, found, n, rfl, hp, -⟩ := answers_select hv hr
  exact ⟨rfl, n, by rw [map_project_of_perm ht h hc (hm _) hp]⟩

/-! ### Writing -/

/-- Rows of fabrics with codes of their own break no rule. -/
theorem violation_eq_none {rows : List Row} (ht : t.Keyed)
    (h : Shown fabricColumns fabricRow rows t.rows) : Schema.fabrics.violation rows = none := by
  have hrequired : ∀ c ∈ Schema.fabrics.required,
      c ∈ fabricColumns ∧ ∀ f, ((fabricRow f).value c).isNull = false := by
    simp only [Schema.fabrics, fabricColumns, List.forall_mem_cons]
    refine ⟨?_, ?_, ?_, ?_, ?_, ?_, nofun⟩ <;> exact ⟨by decide, fun _ => rfl⟩
  have hcheck : ∀ r, ∀ f ∈ t.rows, (∀ c ∈ fabricColumns, r.value c = (fabricRow f).value c) →
      Schema.fabrics.check r = true := by
    intro r f hf hvalue
    have hversion : (1 : ℤ) ≤ f.version := Int.ofNat_le.mpr (ht.tidy_of_mem hf).2
    simp only [Schema.fabrics, hvalue "status" (by decide), hvalue "version" (by decide),
      value_status, value_version]
    cases f.status <;> simp [Status.text, Cell.equals, Cell.rank, hversion]
  have hkeys : ∀ key ∈ Schema.fabrics.keys, ∀ c ∈ key, c ∈ fabricColumns := by decide
  have hcodes : ∀ key ∈ Schema.fabrics.keys,
      t.rows.Pairwise fun f g => Schema.sameKey key (fabricRow f) (fabricRow g) = false := by
    intro key hkey
    obtain rfl : key = ["code"] := List.mem_singleton.mp hkey
    refine (List.pairwise_map.mp ht.codes_nodup).imp fun hne => ?_
    simpa [Schema.sameKey] using hne
  rw [h.violation_eq hrequired hcheck hkeys, if_pos hcodes]

/-- A query that leaves a table as it may be in memory is carried out. -/
theorem answers_writing {s : Statement} {reply : Except Failure Reply} {n : ℕ}
    (hv : v.tables? = some T) (ht' : t'.Keyed)
    (hw : ∀ time, ∃ rows, s.query.written? s.params time T = some ("fabrics", rows, n) ∧
      Shown fabricColumns fabricRow rows t'.rows)
    (hr : Answers s.params v s.query reply v') :
    reply = .ok ⟨[], n⟩ ∧ ∃ rows, v' = v.write "fabrics" rows ∧
      Holds (Function.update T "fabrics" rows) t' := by
  obtain ⟨rows, hrows, ⟨-, rfl, rfl⟩ | ⟨state, message, hsome, -, -⟩⟩ := answers_shown hv hw hr
  · exact ⟨rfl, rows, rfl, by simpa [Holds] using hrows⟩
  · cases (violation_eq_none ht' hrows).symm.trans hsome

/-- the table after a change of the row of a code, where it meets a condition -/
def changeRow (t : Table) (code : Code) (g : Fabric → Bool) (u : Fabric → Fabric) : Table :=
  match (t.find? code).filter g with
  | some row => t.put (u row)
  | none => t

theorem rows_changeRow {g : Fabric → Bool} {u : Fabric → Fabric} (ht : t.Keyed)
    (hcode : ∀ f, f.code = code → (u f).code = code) :
    (changeRow t code g u).rows =
      t.rows.map fun f => if decide (f.code = code) && g f then u f else f := by
  have hfilter : (t.find? code).filter (fun f => decide (f.code = code) && g f) =
      (t.find? code).filter g := by
    cases hfind : t.find? code with
    | none => rfl
    | some row => simp [Option.filter, Table.code_of_find? hfind]
  have hmet : ∀ f, (decide (f.code = code) && g f) = true → f.code = code := fun f hf =>
    of_decide_eq_true (Bool.and_elim_left hf)
  rw [ht.map_at hmet (fun f hf => hcode f (hmet f hf)), hfilter, changeRow]
  cases (t.find? code).filter g <;> rfl

/-- What an update of the row of a code writes. -/
theorem written_update {assignments conditions : List (String × Operand)} {g : Fabric → Bool}
    {u : Fabric → Fabric} (ht : t.Keyed) (h : Holds T t)
    (hc : ∀ p ∈ conditions, p.1 ∈ fabricColumns)
    (hm : ∀ f, meets ps time conditions (fabricRow f) = (decide (f.code = code) && g f))
    (hu : ∀ f, f.code = code → g f = true →
      ((given ps time assignments).onto (fabricRow f)).project fabricColumns = fabricRow (u f))
    (hcode : ∀ f, f.code = code → (u f).code = code) :
    ∃ rows, (Query.update "fabrics" assignments conditions).written? ps time T =
        some ("fabrics", rows, ((t.find? code).filter g).toList.length) ∧
      Shown fabricColumns fabricRow rows (changeRow t code g u).rows := by
  have hfound : ((T "fabrics").filter (meets ps time conditions)).map (Row.project fabricColumns) =
      ((t.find? code).filter g).toList.map fabricRow :=
    map_project_of_perm ht h hc hm (.refl _)
  have hcount : (T "fabrics").countP (meets ps time conditions) =
      ((t.find? code).filter g).toList.length := by
    rw [List.countP_eq_length_filter, ← List.length_map (Row.project fabricColumns), hfound,
      List.length_map]
  refine ⟨_, by rw [Query.written?, hcount], ?_⟩
  rw [rows_changeRow ht hcode]
  refine h.update hc fun f => ?_
  rw [updateRow, hm]
  split
  · next hmet => exact hu f (of_decide_eq_true (Bool.and_elim_left hmet)) (Bool.and_elim_right hmet)
  · rfl

end FabricRegistry.Database
