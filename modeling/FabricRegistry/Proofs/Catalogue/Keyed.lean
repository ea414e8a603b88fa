import FabricRegistry.Proofs.Command.Effect
import FabricRegistry.Proofs.Fabric.Body
import Mathlib.Data.List.Nodup

/-!
The table in memory as a list of rows. No two rows have the same code, so a condition on the code
picks one row at most, and a row put in stands at the place of the one row that it replaces.
-/

namespace FabricRegistry

/-- The return of a deleted fabric is one version ahead of it. -/
theorem Fabric.eq_advance_of_reactivate {f g : Fabric} {d : Details} {e : ℕ}
    (hs : f.status = .deleted) (hr : f.reactivate d e = .ok g) :
    g = f.advance (.reactivated d) := by
  simpa [hs] using (reactivate_eq_ok_iff.mp hr).2.2

namespace Catalogue.Table

/-- what every table in memory keeps to -/
structure Keyed (t : Table) : Prop where
  tidy : t.Tidy
  codes_nodup : (t.rows.map Fabric.code).Nodup

variable {t : Table} {code : Code} {row f : Fabric} {q : Request}

theorem keyed_empty : Keyed empty := ⟨tidy_empty, List.nodup_nil⟩

/-! ### Rows under a code -/

theorem find?_eq_none_iff : t.find? code = none ↔ code ∉ t.rows.map Fabric.code := by
  simp [find?]

theorem mem_of_find? (h : t.find? code = some row) : row ∈ t.rows := List.mem_of_find?_eq_some h

/-- The rows with a code are the one that is found. -/
theorem filter_code_of_nodup (hn : (t.rows.map Fabric.code).Nodup) (code : Code) :
    t.rows.filter (fun r => r.code = code) = (t.find? code).toList := by
  obtain ⟨rows⟩ := t
  change (rows.map Fabric.code).Nodup at hn
  unfold find?
  induction rows with
  | nil => rfl
  | cons r rest ih =>
    obtain ⟨hr, hrest⟩ := List.nodup_cons.mp hn
    by_cases hc : r.code = code
    · have hnone : rest.filter (fun r => r.code = code) = [] := by
        refine List.filter_eq_nil_iff.mpr fun r' hr' => ?_
        simpa [hc] using fun h : r'.code = code => hr (List.mem_map.mpr ⟨r', hr', h.trans hc.symm⟩)
      simp [hc, hnone]
    · simpa [hc] using ih hrest

/-- A row is found under its own code. -/
theorem find?_of_mem_of_nodup (hn : (t.rows.map Fabric.code).Nodup) (hr : row ∈ t.rows) :
    t.find? row.code = some row := by
  have hmem : row ∈ t.rows.filter (fun r => r.code = row.code) := by simp [hr]
  rw [filter_code_of_nodup hn, Option.mem_toList] at hmem
  exact hmem

namespace Keyed

theorem filter_code (ht : t.Keyed) (code : Code) :
    t.rows.filter (fun r => r.code = code) = (t.find? code).toList :=
  filter_code_of_nodup ht.codes_nodup code

theorem find?_of_mem (ht : t.Keyed) (hr : row ∈ t.rows) : t.find? row.code = some row :=
  find?_of_mem_of_nodup ht.codes_nodup hr

theorem tidy_of_mem (ht : t.Keyed) (hr : row ∈ t.rows) : row.pending = [] ∧ 1 ≤ row.version :=
  ht.tidy row.code row (ht.find?_of_mem hr)

end Keyed

/-! ### Rows put in -/

theorem putRow_of_not_mem {rows : List Fabric} (h : row.code ∉ rows.map Fabric.code) :
    putRow row rows = rows ++ [row] := by
  induction rows with
  | nil => rfl
  | cons r rest ih =>
    rw [List.map_cons, List.mem_cons, not_or] at h
    rw [putRow, if_neg (Ne.symm h.1), ih h.2, List.cons_append]

theorem putRow_of_mem {rows : List Fabric} (hn : (rows.map Fabric.code).Nodup)
    (h : row.code ∈ rows.map Fabric.code) :
    putRow row rows = rows.map fun r => if r.code = row.code then row else r := by
  induction rows with
  | nil => cases h
  | cons r rest ih =>
    obtain ⟨hr, hrest⟩ := List.nodup_cons.mp hn
    by_cases hc : r.code = row.code
    · have hsame : rest.map (fun r => if r.code = row.code then row else r) = rest := by
        refine (List.map_congr_left fun r' hr' => if_neg fun h' => hr ?_).trans (List.map_id' rest)
        exact List.mem_map.mpr ⟨r', hr', h'.trans hc.symm⟩
      rw [putRow, if_pos hc, List.map_cons, if_pos hc, hsame]
    · have hmem : row.code ∈ rest.map Fabric.code := by
        rcases List.mem_cons.mp h with h | h
        · exact absurd h.symm hc
        · exact h
      rw [putRow, if_neg hc, List.map_cons, if_neg hc, ih hrest hmem]

theorem codes_putRow (row : Fabric) (rows : List Fabric) :
    (putRow row rows).map Fabric.code =
      if row.code ∈ rows.map Fabric.code then rows.map Fabric.code
      else rows.map Fabric.code ++ [row.code] := by
  induction rows with
  | nil => simp [putRow]
  | cons r rest ih =>
    by_cases hc : r.code = row.code
    · simp [putRow, hc]
    · have hne : row.code ≠ r.code := Ne.symm hc
      by_cases hmem : row.code ∈ rest.map Fabric.code <;> simp_all [putRow]

theorem codes_nodup_put (hn : (t.rows.map Fabric.code).Nodup) (row : Fabric) :
    ((t.put row).rows.map Fabric.code).Nodup := by
  rw [Table.put, codes_putRow]
  split
  · exact hn
  · next hmem =>
      rw [← List.concat_eq_append]
      exact hn.concat hmem

theorem Keyed.put (ht : t.Keyed) (hf : 1 ≤ f.version) : (t.put f.settled).Keyed :=
  ⟨ht.tidy.put hf, codes_nodup_put ht.codes_nodup f.settled⟩

theorem mem_put_self (t : Table) (row : Fabric) : row ∈ (t.put row).rows :=
  mem_of_find? (find?_put_self t row)

theorem rows_put_of_none (h : t.find? row.code = none) : (t.put row).rows = t.rows ++ [row] :=
  putRow_of_not_mem (find?_eq_none_iff.mp h)

/-- The rows with a change of those that meet a condition, when the condition is met under one code
only. -/
theorem Keyed.map_at (ht : t.Keyed) {p : Fabric → Bool} {u : Fabric → Fabric}
    (hp : ∀ r, p r = true → r.code = code) (hu : ∀ r, p r = true → (u r).code = code) :
    t.rows.map (fun r => if p r then u r else r) =
      match (t.find? code).filter p with
      | some row => (t.put (u row)).rows
      | none => t.rows := by
  cases hfind : t.find? code with
  | none =>
    have hnot : ∀ r ∈ t.rows, ¬ p r = true := fun r hr h =>
      find?_eq_none_iff.mp hfind (hp r h ▸ List.mem_map_of_mem hr)
    exact (List.map_congr_left fun r hr => if_neg (hnot r hr)).trans (List.map_id' _)
  | some row =>
    have hrow := mem_of_find? hfind
    have hcode := code_of_find? hfind
    -- the row of the code is the only one that can meet the condition
    have honly : ∀ r ∈ t.rows, r.code = code → r = row := by
      intro r hr hc
      have := ht.find?_of_mem hr
      rw [hc, hfind] at this
      exact (Option.some.inj this).symm
    cases hprow : p row with
    | false =>
      have hnot : ∀ r ∈ t.rows, ¬ p r = true := by
        intro r hr h
        rw [honly r hr (hp r h), hprow] at h
        cases h
      rw [Option.filter_some_neg hprow]
      exact (List.map_congr_left fun r hr => if_neg (hnot r hr)).trans (List.map_id' _)
    | true =>
      rw [Option.filter_some_pos hprow]
      dsimp only
      rw [Table.put, putRow_of_mem ht.codes_nodup]
      · refine List.map_congr_left fun r hr => ?_
        by_cases hc : r.code = code
        · rw [honly r hr hc, hprow, if_pos rfl, hu row hprow, if_pos hcode]
        · rw [if_neg (fun h => hc (hp r h)), hu row hprow, if_neg hc]
      · rw [hu row hprow, ← hcode]
        exact List.mem_map_of_mem hrow

/-! ### Requests -/

theorem version_of_writable (h : t.writable f = .ok row) : 2 ≤ f.version := by
  obtain ⟨-, -, hv, h1⟩ := writable_eq_ok_iff.mp h
  omega

theorem Keyed.save (ht : t.Keyed) (hf : 1 ≤ f.version) : (t.save f).2.Keyed := by
  unfold Table.save
  split
  · exact ht.put hf
  · next row _ =>
    split
    · exact ht
    · next ha =>
      split
      · exact ht
      · next revived hr =>
        have hs : row.status = .deleted := by
          cases hs : row.status with
          | active => exact absurd (decide_eq_true hs) ha
          | deleted => rfl
        have hversion : revived.version = row.version + 1 := by
          rw [Fabric.eq_advance_of_reactivate hs hr]
          rfl
        exact ht.put (by omega)

/-- What a conditional write puts in has the version of the fabric that is written. -/
theorem Keyed.put_restore (ht : t.Keyed) {found : Fabric} (hw : t.writable f = .ok found)
    (d : Details) (s : Status) : (t.put (.restore f.code d s f.version)).Keyed :=
  ht.put (f := .restore f.code d s f.version) (Nat.le_of_lt (version_of_writable hw))

/-- Every request leaves the table keyed. -/
theorem Keyed.reply (ht : t.Keyed) (hq : ∀ f, q = .save f → 1 ≤ f.version) :
    (t.reply q).2.Keyed := by
  cases q with
  | save f => exact ht.save (hq f rfl)
  | findActive code => exact ht
  | findAny code => exact ht
  | update f =>
    change (t.update f).2.Keyed
    unfold update
    split
    · next hw => exact ht.put_restore hw f.details .active
    · exact ht
  | delete f =>
    change (t.delete f).2.Keyed
    unfold delete
    split
    · next row hw => exact ht.put_restore hw row.details .deleted
    · exact ht

end Catalogue.Table

end FabricRegistry
