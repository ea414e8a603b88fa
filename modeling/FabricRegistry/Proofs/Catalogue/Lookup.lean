import FabricRegistry.Catalogue.Table
import FabricRegistry.Proofs.Except

/-!
Looking up a row. A table is known by what `find?` gives for each code, and a row put in changes
that for its own code only. From this each request to the table gets one equation: what `save`, a
look-up and a conditional write come to is decided by the row of the code and by nothing else.
-/

namespace FabricRegistry

namespace Fabric

variable {f g : Fabric} {d : Details} {e : Nat}

/-! ### Operations that succeed -/

/-- a fabric with the one fact pending that it was changed -/
def changed (code : Code) (details : Details) (status : Status) (version : Nat) (change : Change) :
    Fabric :=
  { code, details, status, version, pending := [⟨code, version, change⟩] }

/-- What an operation makes of a fabric with nothing pending. -/
theorem advance_eq_changed (hp : f.pending = []) (c : Change) :
    f.advance c = changed f.code (c.details?.getD f.details)
      (if c = .deleted then .deleted else .active) (f.version + 1) c := by
  simp [advance, changed, hp]

theorem create_eq_ok {text : String} (h : create text d = .ok f) :
    ∃ code, Code.ofString text = .ok code ∧ d.validate = .ok () ∧
      f = changed code d .active 1 (.created d) := by
  unfold create at h
  cases hc : Code.ofString text with
  | error e => simp [hc] at h
  | ok code =>
    cases hd : d.validate with
    | error e => simp [hc, hd] at h
    | ok _ =>
      simp only [hc, hd, mapError_ok, ok_bind, pure_eq_ok, Except.ok.injEq] at h
      exact ⟨code, rfl, rfl, h.symm⟩

theorem update_eq_ok_iff : f.update d e = .ok g ↔
    f.status = .active ∧ e = f.version ∧ d.validate = .ok () ∧ g = f.advance (.updated d) := by
  cases hs : f.status <;> by_cases hv : e = f.version <;> cases hd : d.validate <;>
    simp [update, checkVersion, hs, hv, hd, eq_comm]

theorem delete_eq_ok_iff : f.delete e = .ok g ↔
    f.status = .active ∧ e = f.version ∧ g = f.advance .deleted := by
  cases hs : f.status <;> by_cases hv : e = f.version <;>
    simp [delete, checkVersion, hs, hv, eq_comm]

theorem reactivate_eq_ok_iff : f.reactivate d e = .ok g ↔
    e = f.version ∧ d.validate = .ok () ∧
      g = f.advance (if f.status = .active then .updated d else .reactivated d) := by
  cases hs : f.status with
  | active =>
    rw [reactivate, if_pos hs, update_eq_ok_iff]
    simp [hs]
  | deleted =>
    by_cases hv : e = f.version <;> cases hd : d.validate <;>
      simp [reactivate, checkVersion, hs, hv, hd, eq_comm]

theorem reactivate_of_deleted (hs : f.status = .deleted) (hd : d.validate = .ok ()) :
    f.reactivate d f.version = .ok (f.advance (.reactivated d)) := by
  simp [reactivate_eq_ok_iff, hs, hd]

@[simp] theorem settled_code : f.settled.code = f.code := rfl
@[simp] theorem settled_version : f.settled.version = f.version := rfl

end Fabric

namespace Catalogue.Table

variable {t : Table} {code : Code} {row f g : Fabric}

/-! ### Rows -/

@[simp] theorem find?_empty : empty.find? code = none := rfl

theorem code_of_find? (h : t.find? code = some row) : row.code = code := by
  simpa [find?] using List.find?_some h

/-- A row put in is found under its own code and hides no other. -/
theorem find?_put :
    (t.put row).find? code = if row.code = code then some row else t.find? code := by
  unfold put find?
  induction t.rows with
  | nil => by_cases hc : row.code = code <;> simp [putRow, hc]
  | cons r rest ih =>
    by_cases hr : r.code = row.code
    · by_cases hc : row.code = code <;> simp [putRow, hr, hc]
    · by_cases hc : r.code = code
      · subst hc
        have : row.code ≠ r.code := fun h => hr h.symm
        simp [putRow, hr, this]
      · simpa [putRow, hr, hc] using ih

theorem find?_put_self (t : Table) (row : Fabric) : (t.put row).find? row.code = some row := by
  simp [find?_put]

theorem find?_put_of_ne (h : row.code ≠ code) : (t.put row).find? code = t.find? code := by
  simp [find?_put, h]

/-! ### Requests -/

theorem save_of_none (h : t.find? f.code = none) : t.save f = (.ok f, t.put f.settled) := by
  simp [save, h]

theorem save_of_active (h : t.find? f.code = some row) (ha : row.status = .active) :
    t.save f = (.error (.duplicateCode f.code), t) := by
  simp [save, h, Fabric.isActive, ha]

theorem save_of_deleted (h : t.find? f.code = some row) (hs : row.status = .deleted)
    (hp : row.pending = []) (hd : f.details.validate = .ok ())
    (hg : g = .changed f.code f.details .active (row.version + 1) (.reactivated f.details)) :
    t.save f = (.ok g, t.put g.settled) := by
  have hcode := code_of_find? h
  simp [save, h, hg, hcode, Fabric.isActive, hs, Fabric.reactivate_of_deleted hs hd,
    Fabric.advance_eq_changed hp, Change.details?]

theorem findActive_of_active (h : t.find? code = some row) (ha : row.status = .active) :
    t.findActive code = .ok row := by
  simp [findActive, h, Fabric.isActive, ha]

theorem findActive_of_deleted (h : t.find? code = some row) (hs : row.status = .deleted) :
    t.findActive code = .error (.notFound code) := by
  simp [findActive, h, Fabric.isActive, hs]

theorem findActive_of_none (h : t.find? code = none) :
    t.findActive code = .error (.notFound code) := by
  simp [findActive, h]

theorem writable_eq_ok_iff : t.writable f = .ok row ↔ t.find? f.code = some row ∧
    row.status = .active ∧ f.version = row.version + 1 ∧ 1 ≤ row.version := by
  unfold writable previousVersion
  by_cases h2 : 2 ≤ f.version
  · cases hfind : t.find? f.code with
    | none => simp [h2]
    | some found =>
      have hversion : found.version = f.version - 1 ↔
          f.version = found.version + 1 ∧ 1 ≤ found.version := by omega
      by_cases ha : found.status = .active ∧ f.version = found.version + 1 ∧ 1 ≤ found.version
      · have hwritable : found.isActive ∧ found.version = f.version - 1 :=
          ⟨decide_eq_true ha.1, hversion.mpr ha.2⟩
        simp only [if_pos h2, ok_bind, if_pos hwritable, Except.ok.injEq, Option.some.injEq]
        exact ⟨fun h => ⟨h, h ▸ ha⟩, And.left⟩
      · have hnot : ¬ (found.isActive ∧ found.version = f.version - 1) := fun h =>
          ha ⟨of_decide_eq_true h.1, hversion.mp h.2⟩
        simp only [if_pos h2, ok_bind, if_neg hnot, reduceCtorEq, Option.some.injEq, false_iff]
        rintro ⟨rfl, h⟩
        exact ha h
  · have hv : ¬ (f.version = row.version + 1 ∧ 1 ≤ row.version) := by omega
    simp [h2, hv]

theorem writable_of_active (h : t.find? f.code = some row) (ha : row.status = .active)
    (hv : f.version = row.version + 1) (hpos : 1 ≤ row.version) : t.writable f = .ok row :=
  writable_eq_ok_iff.mpr ⟨h, ha, hv, hpos⟩

theorem writable_of_moved (h : t.find? f.code = some row) (hv : f.version < row.version + 1) :
    t.writable f = .error (.notFound f.code) := by
  by_cases h2 : 2 ≤ f.version
  · have : row.version ≠ f.version - 1 := by omega
    simp [writable, previousVersion, h, h2, this]
  · simp [writable, previousVersion, h2]

end Catalogue.Table

end FabricRegistry
