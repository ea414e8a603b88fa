import FabricRegistry.Command.Service
import FabricRegistry.Proofs.Catalogue.Lookup
import FabricRegistry.Proofs.Fabric.Replay

/-!
What a command comes to on a table that nobody else touches: a failure, or the fabric that it
writes. `Command.effect` says so in one piece, by the row of the code alone; it knows neither the
requests that a command makes nor their order. Whatever a command writes, the fact that it leaves
pending fits the row before and leads to the row after (`Command.effect_eq_ok`).
-/

namespace FabricRegistry

/-- what a command comes to: its failure, or the fabric that it writes -/
abbrev Verdict : Type := Except CommandError Fabric

namespace Catalogue.Table

/-- the version of the row of a code, zero where there is none -/
def versionOf (t : Table) (code : Code) : ℕ := Fabric.versionOf (t.find? code)

@[simp] theorem versionOf_empty (code : Code) : empty.versionOf code = 0 := rfl

theorem versionOf_of_find? {t : Table} {code : Code} {row : Fabric} (h : t.find? code = some row) :
    t.versionOf code = row.version := by
  simp [versionOf, h]

theorem exists_row {t : Table} {code : Code} {v : ℕ} (h1 : 1 ≤ v) (hv : v ≤ t.versionOf code) :
    ∃ row, t.find? code = some row ∧ v ≤ row.version := by
  cases h : t.find? code with
  | none =>
    rw [versionOf, h, Fabric.versionOf_none] at hv
    omega
  | some row => exact ⟨row, rfl, versionOf_of_find? h ▸ hv⟩

theorem versionOf_put (t : Table) (f : Fabric) (code : Code) :
    (t.put f.settled).versionOf code = if f.code = code then f.version else t.versionOf code := by
  unfold versionOf
  rw [find?_put]
  split <;> simp_all

/-- Rows have no facts pending, and their versions begin with 1. -/
def Tidy (t : Table) : Prop :=
  ∀ code row, t.find? code = some row → row.pending = [] ∧ 1 ≤ row.version

theorem tidy_empty : Tidy empty := by
  intro code row h
  simp at h

theorem Tidy.put {t : Table} (ht : t.Tidy) {f : Fabric} (hf : 1 ≤ f.version) :
    (t.put f.settled).Tidy := by
  intro code row h
  rw [find?_put] at h
  split at h
  · cases h; exact ⟨rfl, hf⟩
  · exact ht code row h

/-- the table after a verdict -/
def settle (t : Table) : Verdict → Table
  | .ok f => t.put f.settled
  | .error _ => t

@[simp] theorem settle_ok (t : Table) (f : Fabric) : t.settle (.ok f) = t.put f.settled := rfl

@[simp] theorem settle_error (t : Table) (e : CommandError) : t.settle (.error e) = t := rfl

/-- the active row of a code, where it has the expected version -/
def current (t : Table) (text : String) (expected : ℕ) : Except CommandError Fabric := do
  let code ← (Code.ofString text).mapError .validation
  match t.find? code with
  | none => throw (.notFound code)
  | some row =>
    if row.status = .deleted then throw (.notFound code)
    else if expected ≠ row.version then throw (.concurrencyConflict code expected)
    else return row

end Catalogue.Table

namespace Command

/-- **What a command comes to**: its failure, or the fabric that it writes, with the fact of the
change pending. The code is looked at first. A creation looks at the name before the row, an update
after the row and its version. -/
def effect (t : Catalogue.Table) : Command → Verdict
  | .create text d => do
    let code ← (Code.ofString text).mapError .validation
    d.validate.mapError .validation
    match t.find? code with
    | none => return Fabric.changed code d .active 1 (.created d)
    | some row =>
      if row.status = .active then throw (.duplicateCode code)
      else return Fabric.changed code d .active (row.version + 1) (.reactivated d)
  | .update text d expected => do
    let row ← t.current text expected
    d.validate.mapError .validation
    return Fabric.changed row.code d .active (row.version + 1) (.updated d)
  | .delete text expected => do
    let row ← t.current text expected
    return Fabric.changed row.code row.details .deleted (row.version + 1) .deleted

variable {t : Catalogue.Table} {text : String} {code : Code} {row f : Fabric} {d : Details}
  {expected : ℕ} {e : ValidationError}

/-! ### Creations -/

theorem effect_create_of_bad_code (h : Code.ofString text = .error e) :
    effect t (.create text d) = .error (.validation e) := by
  simp [effect, h]

theorem effect_create_of_bad_name (hc : Code.ofString text = .ok code)
    (hd : d.validate = .error e) : effect t (.create text d) = .error (.validation e) := by
  simp [effect, hc, hd]

theorem effect_create_of_error {e : FabricError} (h : Fabric.create text d = .error e) :
    effect t (.create text d) = .error (.ofFabric e) := by
  unfold Fabric.create at h
  cases hc : Code.ofString text with
  | error ec =>
    simp only [hc, mapError_error, error_bind, Except.error.injEq] at h
    subst h
    exact effect_create_of_bad_code hc
  | ok code =>
    cases hd : d.validate with
    | error ed =>
      simp only [hc, hd, mapError_ok, mapError_error, ok_bind, error_bind,
        Except.error.injEq] at h
      subst h
      exact effect_create_of_bad_name hc hd
    | ok _ => simp [hc, hd] at h

theorem effect_create_of_none (hc : Code.ofString text = .ok code) (hd : d.validate = .ok ())
    (h : t.find? code = none) :
    effect t (.create text d) = .ok (Fabric.changed code d .active 1 (.created d)) := by
  simp [effect, hc, hd, h]

theorem effect_create_of_active (hc : Code.ofString text = .ok code) (hd : d.validate = .ok ())
    (h : t.find? code = some row) (hs : row.status = .active) :
    effect t (.create text d) = .error (.duplicateCode code) := by
  simp [effect, hc, hd, h, hs]

theorem effect_create_of_deleted (hc : Code.ofString text = .ok code) (hd : d.validate = .ok ())
    (h : t.find? code = some row) (hs : row.status = .deleted) :
    effect t (.create text d) =
      .ok (Fabric.changed code d .active (row.version + 1) (.reactivated d)) := by
  simp [effect, hc, hd, h, hs]

/-! ### Updates and deletions -/

theorem current_of_bad_code (hc : Code.ofString text = .error e) :
    t.current text expected = .error (.validation e) := by
  simp [Catalogue.Table.current, hc]

theorem current_of_none (hc : Code.ofString text = .ok code) (h : t.find? code = none) :
    t.current text expected = .error (.notFound code) := by
  simp [Catalogue.Table.current, hc, h]

theorem current_of_deleted (hc : Code.ofString text = .ok code) (h : t.find? code = some row)
    (hs : row.status = .deleted) : t.current text expected = .error (.notFound code) := by
  simp [Catalogue.Table.current, hc, h, hs]

theorem current_of_moved (hc : Code.ofString text = .ok code) (h : t.find? code = some row)
    (hs : row.status = .active) (hv : expected ≠ row.version) :
    t.current text expected = .error (.concurrencyConflict code expected) := by
  simp [Catalogue.Table.current, hc, h, hs, hv]

theorem current_of_active (hc : Code.ofString text = .ok code) (h : t.find? code = some row)
    (hs : row.status = .active) (hv : expected = row.version) :
    t.current text expected = .ok row := by
  simp [Catalogue.Table.current, hc, h, hs, hv]

theorem effect_update_of_error {e : CommandError} (h : t.current text expected = .error e) :
    effect t (.update text d expected) = .error e := by
  simp [effect, h]

theorem effect_update_of_bad_name (h : t.current text expected = .ok row)
    (hd : d.validate = .error e) : effect t (.update text d expected) = .error (.validation e) := by
  simp [effect, h, hd]

theorem effect_update_of_current (h : t.current text expected = .ok row)
    (hd : d.validate = .ok ()) : effect t (.update text d expected) =
      .ok (Fabric.changed row.code d .active (row.version + 1) (.updated d)) := by
  simp [effect, h, hd]

theorem effect_delete_of_error {e : CommandError} (h : t.current text expected = .error e) :
    effect t (.delete text expected) = .error e := by
  simp [effect, h]

theorem effect_delete_of_current (h : t.current text expected = .ok row) :
    effect t (.delete text expected) =
      .ok (Fabric.changed row.code row.details .deleted (row.version + 1) .deleted) := by
  simp [effect, h]

/-! ### What a command writes -/

theorem current_eq_ok (h : t.current text expected = .ok row) :
    ∃ code, Code.ofString text = .ok code ∧ t.find? code = some row ∧ row.status = .active ∧
      row.version = expected := by
  unfold Catalogue.Table.current at h
  cases hc : Code.ofString text with
  | error e => simp [hc] at h
  | ok code =>
    simp only [hc, mapError_ok, ok_bind] at h
    split at h
    · cases h
    · next r hr =>
      split at h
      · cases h
      · next hs =>
        split at h
        · cases h
        · next hv =>
          cases h
          refine ⟨code, rfl, hr, ?_, by simpa [eq_comm] using hv⟩
          cases hstatus : row.status <;> simp_all

/-- A creation that writes something found no row, or a deleted one. -/
theorem effect_create_eq_ok (h : effect t (.create text d) = .ok f) :
    ∃ code, Code.ofString text = .ok code ∧ d.validate = .ok () ∧
      (t.find? code = none ∧ f = .changed code d .active 1 (.created d) ∨
        ∃ row, t.find? code = some row ∧ row.status = .deleted ∧
          f = .changed code d .active (row.version + 1) (.reactivated d)) := by
  cases hc : Code.ofString text with
  | error e =>
    rw [effect_create_of_bad_code hc] at h
    cases h
  | ok code =>
    cases hd : d.validate with
    | error e =>
      rw [effect_create_of_bad_name hc hd] at h
      cases h
    | ok _ =>
      refine ⟨code, rfl, rfl, ?_⟩
      cases hr : t.find? code with
      | none =>
        rw [effect_create_of_none hc hd hr] at h
        exact Or.inl ⟨rfl, (Except.ok.inj h).symm⟩
      | some row =>
        cases hs : row.status with
        | active =>
          rw [effect_create_of_active hc hd hr hs] at h
          cases h
        | deleted =>
          rw [effect_create_of_deleted hc hd hr hs] at h
          exact Or.inr ⟨row, rfl, hs, (Except.ok.inj h).symm⟩

/-- An update that writes something found the active row at the expected version. -/
theorem effect_update_eq_ok (h : effect t (.update text d expected) = .ok f) :
    ∃ code row, Code.ofString text = .ok code ∧ t.find? code = some row ∧ row.status = .active ∧
      row.version = expected ∧ d.validate = .ok () ∧
      f = .changed code d .active (row.version + 1) (.updated d) := by
  cases hrow : t.current text expected with
  | error e =>
    rw [effect_update_of_error hrow] at h
    cases h
  | ok row =>
    obtain ⟨code, hc, hr, hs, hv⟩ := current_eq_ok hrow
    cases hd : d.validate with
    | error e =>
      rw [effect_update_of_bad_name hrow hd] at h
      cases h
    | ok _ =>
      rw [effect_update_of_current hrow hd, Catalogue.Table.code_of_find? hr] at h
      exact ⟨code, row, hc, hr, hs, hv, rfl, (Except.ok.inj h).symm⟩

/-- A deletion that writes something found the active row at the expected version. -/
theorem effect_delete_eq_ok (h : effect t (.delete text expected) = .ok f) :
    ∃ code row, Code.ofString text = .ok code ∧ t.find? code = some row ∧ row.status = .active ∧
      row.version = expected ∧
      f = .changed code row.details .deleted (row.version + 1) .deleted := by
  cases hrow : t.current text expected with
  | error e =>
    rw [effect_delete_of_error hrow] at h
    cases h
  | ok row =>
    obtain ⟨code, hc, hr, hs, hv⟩ := current_eq_ok hrow
    rw [effect_delete_of_current hrow, Catalogue.Table.code_of_find? hr] at h
    exact ⟨code, row, hc, hr, hs, hv, (Except.ok.inj h).symm⟩

/-- **What a command writes.** One fact is pending, of the fabric's code and version; it fits the
row before and leads to the fabric without it. -/
theorem effect_eq_ok {c : Command} (h : effect t c = .ok f) :
    ∃ x : Fact, f.pending = [x] ∧ x.code = f.code ∧ x.version = f.version ∧
      x.onto? (t.find? f.code) = some f.settled := by
  cases c with
  | create text d =>
    obtain ⟨code, -, -, ⟨hr, rfl⟩ | ⟨row, hr, hs, rfl⟩⟩ := effect_create_eq_ok h
    · refine ⟨_, rfl, rfl, rfl, ?_⟩
      simp [Fabric.changed, hr, Fact.onto?, Fabric.restore, Fabric.settled]
    · have hcode := Catalogue.Table.code_of_find? hr
      refine ⟨_, rfl, rfl, rfl, ?_⟩
      simp [Fabric.changed, hr, hs, hcode, Fact.onto?, Fabric.restore, Fabric.settled]
  | update text d expected =>
    obtain ⟨code, row, -, hr, hs, -, -, rfl⟩ := effect_update_eq_ok h
    have hcode := Catalogue.Table.code_of_find? hr
    refine ⟨_, rfl, rfl, rfl, ?_⟩
    simp [Fabric.changed, hr, hs, hcode, Fact.onto?, Fabric.restore, Fabric.settled]
  | delete text expected =>
    obtain ⟨code, row, -, hr, hs, -, rfl⟩ := effect_delete_eq_ok h
    have hcode := Catalogue.Table.code_of_find? hr
    refine ⟨_, rfl, rfl, rfl, ?_⟩
    simp [Fabric.changed, hr, hs, hcode, Fact.onto?, Fabric.restore, Fabric.settled]

/-! ### The row of the code alone -/

/-- the code that a command names, which need not be a valid one -/
def codeText : Command → String
  | .create text _ => text
  | .update text _ _ => text
  | .delete text _ => text

theorem current_congr {t' : Catalogue.Table}
    (h : ∀ code, Code.ofString text = .ok code → t.find? code = t'.find? code) :
    t.current text expected = t'.current text expected := by
  unfold Catalogue.Table.current
  cases hc : Code.ofString text with
  | error e => rfl
  | ok code => simp only [mapError_ok, ok_bind, h code hc]

/-- **A command looks at the row of its code and at no other.** -/
theorem effect_congr {t' : Catalogue.Table} {c : Command}
    (h : ∀ code, Code.ofString c.codeText = .ok code → t.find? code = t'.find? code) :
    effect t c = effect t' c := by
  cases c with
  | create text d =>
    cases hc : Code.ofString text with
    | error e => rw [effect_create_of_bad_code hc, effect_create_of_bad_code hc]
    | ok code => simp only [effect, hc, mapError_ok, ok_bind, h code hc]
  | update text d expected =>
    have hrow : t.current text expected = t'.current text expected := current_congr h
    simp only [effect, hrow]
  | delete text expected =>
    have hrow : t.current text expected = t'.current text expected := current_congr h
    simp only [effect, hrow]

/-- A command writes the fabric with its code. -/
theorem code_of_effect {c : Command} (h : effect t c = .ok f) :
    Code.ofString c.codeText = .ok f.code := by
  cases c with
  | create text d =>
    obtain ⟨code, hc, -, ⟨-, rfl⟩ | ⟨row, -, -, rfl⟩⟩ := effect_create_eq_ok h
    · exact hc
    · exact hc
  | update text d expected =>
    obtain ⟨code, row, hc, -, -, -, -, rfl⟩ := effect_update_eq_ok h
    exact hc
  | delete text expected =>
    obtain ⟨code, row, hc, -, -, -, rfl⟩ := effect_delete_eq_ok h
    exact hc

/-! ### Why a command fails -/

theorem current_eq_error {e : CommandError} (h : t.current text expected = .error e) :
    (∃ v, e = .validation v) ∨ (∃ code, e = .notFound code) ∨
      ∃ code expected, e = .concurrencyConflict code expected := by
  unfold Catalogue.Table.current at h
  cases hc : Code.ofString text with
  | error v =>
    rw [hc] at h
    cases h
    exact Or.inl ⟨_, rfl⟩
  | ok code =>
    simp only [hc, mapError_ok, ok_bind] at h
    split at h
    · cases h
      exact Or.inr (Or.inl ⟨_, rfl⟩)
    · split at h
      · cases h
        exact Or.inr (Or.inl ⟨_, rfl⟩)
      · split at h
        · cases h
          exact Or.inr (Or.inr ⟨_, _, rfl⟩)
        · cases h

/-- **Why a command fails**: a broken rule, an active fabric with the code, no active fabric with
the code, or another version than the expected one. -/
theorem effect_eq_error {c : Command} {e : CommandError} (h : effect t c = .error e) :
    (∃ v, e = .validation v) ∨ (∃ code, e = .duplicateCode code) ∨ (∃ code, e = .notFound code) ∨
      ∃ code expected, e = .concurrencyConflict code expected := by
  cases c with
  | create text d =>
    cases hc : Code.ofString text with
    | error v =>
      rw [effect_create_of_bad_code hc] at h
      cases h
      exact Or.inl ⟨_, rfl⟩
    | ok code =>
      cases hd : d.validate with
      | error v =>
        rw [effect_create_of_bad_name hc hd] at h
        cases h
        exact Or.inl ⟨_, rfl⟩
      | ok _ =>
        cases hr : t.find? code with
        | none =>
          rw [effect_create_of_none hc hd hr] at h
          cases h
        | some row =>
          cases hs : row.status with
          | active =>
            rw [effect_create_of_active hc hd hr hs] at h
            cases h
            exact Or.inr (Or.inl ⟨_, rfl⟩)
          | deleted =>
            rw [effect_create_of_deleted hc hd hr hs] at h
            cases h
  | update text d expected =>
    cases hrow : t.current text expected with
    | error e =>
      rw [effect_update_of_error hrow] at h
      cases h
      exact (current_eq_error hrow).imp_right Or.inr
    | ok row =>
      cases hd : d.validate with
      | error v =>
        rw [effect_update_of_bad_name hrow hd] at h
        cases h
        exact Or.inl ⟨_, rfl⟩
      | ok _ =>
        rw [effect_update_of_current hrow hd] at h
        cases h
  | delete text expected =>
    cases hrow : t.current text expected with
    | error e =>
      rw [effect_delete_of_error hrow] at h
      cases h
      exact (current_eq_error hrow).imp_right Or.inr
    | ok row =>
      rw [effect_delete_of_current hrow] at h
      cases h

/-! ### What that does to versions -/

theorem version_of_effect {c : Command} (h : effect t c = .ok f) :
    f.version = t.versionOf f.code + 1 := by
  obtain ⟨x, -, -, hv, hx⟩ := effect_eq_ok h
  obtain ⟨hbefore, -⟩ := Fact.version_of_onto? hx
  rw [← hv, hbefore, Catalogue.Table.versionOf]

/-- The versions of rows do not fall, whatever a command comes to. -/
theorem versionOf_le_settle_effect (t : Catalogue.Table) (c : Command) (code : Code) :
    t.versionOf code ≤ (t.settle (effect t c)).versionOf code := by
  cases h : effect t c with
  | error e => exact Nat.le_refl _
  | ok f =>
    have hv := version_of_effect h
    rw [Catalogue.Table.settle_ok, Catalogue.Table.versionOf_put]
    split
    · next hcode =>
      subst hcode
      omega
    · exact Nat.le_refl _

theorem tidy_settle_effect (ht : t.Tidy) (c : Command) : (t.settle (effect t c)).Tidy := by
  cases h : effect t c with
  | error e => exact ht
  | ok f =>
    have hv := version_of_effect h
    exact ht.put (by omega)

end Command

end FabricRegistry
