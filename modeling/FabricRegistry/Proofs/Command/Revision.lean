import FabricRegistry.Proofs.Command.Effect

/-!
Updates and deletions. They make the same requests and differ in the operation, the request that
writes and the name of a step, which a `Revision` holds together. What is shown here is the part of
`Command.effect` that both have in common, and the two replies that their conditional write can
get: it is granted where the row is still the one that was read, and it finds no row where the row
has moved on.
-/

namespace FabricRegistry

/-- what an update and a deletion differ in -/
inductive Revision where
  | update (d : Details)
  | delete

namespace Revision

def command (text : String) (expected : ℕ) : Revision → Command
  | update d => .update text d expected
  | delete => .delete text expected

def operation (f : Fabric) (expected : ℕ) : Revision → Except FabricError Fabric
  | update d => f.update d expected
  | delete => f.delete expected

def step : Revision → Step
  | update _ => .update
  | delete => .delete

def request (f : Fabric) : Revision → Catalogue.Request
  | update _ => .update f
  | delete => .delete f

variable {rev : Revision} {t : Catalogue.Table} {text : String} {code : Code}
  {row current f : Fabric} {expected : ℕ}

/-! ### The operation -/

/-- An operation that succeeds found an active fabric at the expected version, and is one version
ahead of it. -/
theorem operation_eq_ok (h : rev.operation current expected = .ok f) :
    current.status = .active ∧ expected = current.version ∧ f.code = current.code ∧
      f.version = current.version + 1 := by
  cases rev with
  | update d =>
    obtain ⟨hs, hv, -, rfl⟩ := Fabric.update_eq_ok_iff.mp h
    exact ⟨hs, hv, rfl, rfl⟩
  | delete =>
    obtain ⟨hs, hv, rfl⟩ := Fabric.delete_eq_ok_iff.mp h
    exact ⟨hs, hv, rfl, rfl⟩

theorem operation_of_moved (hs : row.status = .active) (hv : expected ≠ row.version) :
    rev.operation row expected = .error (.concurrencyConflict row.code expected row.version) := by
  cases rev <;>
    simp [operation, Fabric.update, Fabric.delete, Fabric.checkVersion, hs, hv]

/-! ### The effect -/

/-- Where there is no row to start from, nothing is written. -/
theorem effect_of_current_error {e : CommandError} (h : t.current text expected = .error e) :
    Command.effect t (rev.command text expected) = .error e := by
  cases rev with
  | update d => exact Command.effect_update_of_error h
  | delete => exact Command.effect_delete_of_error h

/-- On an active row the effect is what the operation on it comes to. -/
theorem effect_of_active (rev : Revision) (expected : ℕ) (hc : Code.ofString text = .ok code)
    (h : t.find? code = some row) (hs : row.status = .active) (hp : row.pending = []) :
    Command.effect t (rev.command text expected) =
      (rev.operation row expected).mapError .ofFabric := by
  have hcode := Catalogue.Table.code_of_find? h
  by_cases hv : expected = row.version
  · have hcurrent := Command.current_of_active hc h hs hv
    cases rev with
    | update d =>
      cases hd : d.validate with
      | error e =>
        rw [command, Command.effect_update_of_bad_name hcurrent hd]
        simp [operation, Fabric.update, Fabric.checkVersion, hs, hv, hd, CommandError.ofFabric]
      | ok _ =>
        rw [command, Command.effect_update_of_current hcurrent hd, operation,
          Fabric.update_eq_ok_iff.mpr ⟨hs, hv, hd, rfl⟩, Fabric.advance_eq_changed hp]
        rfl
    | delete =>
      rw [command, Command.effect_delete_of_current hcurrent, operation,
        Fabric.delete_eq_ok_iff.mpr ⟨hs, hv, rfl⟩, Fabric.advance_eq_changed hp]
      rfl
  · rw [operation_of_moved hs hv, hcode]
    exact effect_of_current_error (Command.current_of_moved hc h hs hv)

/-- Where something is written, the row was active at the expected version, and what is written is
one version ahead of it. -/
theorem effect_eq_ok (h : Command.effect t (rev.command text expected) = .ok f) :
    ∃ row, Code.ofString text = .ok f.code ∧ t.find? f.code = some row ∧ row.status = .active ∧
      row.version = expected ∧ f.version = expected + 1 := by
  cases rev with
  | update d =>
    obtain ⟨code, row, hc, hr, hs, rfl, -, rfl⟩ := Command.effect_update_eq_ok h
    exact ⟨row, hc, hr, hs, rfl, rfl⟩
  | delete =>
    obtain ⟨code, row, hc, hr, hs, rfl, rfl⟩ := Command.effect_delete_eq_ok h
    exact ⟨row, hc, hr, hs, rfl, rfl⟩

/-! ### The conditional write -/

/-- Where the row is the one that was read, the write is granted. -/
theorem reply_granted (h : t.find? current.code = some current) (hpos : 1 ≤ current.version)
    (hf : rev.operation current expected = .ok f) :
    ∃ a, t.reply (rev.request f) = (.ok a, t.put f.settled) := by
  obtain ⟨hs, -, hcode, hv⟩ := operation_eq_ok hf
  have hw := Catalogue.Table.writable_of_active (hcode ▸ h) hs hv hpos
  cases rev with
  | update d =>
    obtain ⟨-, -, -, rfl⟩ := Fabric.update_eq_ok_iff.mp hf
    refine ⟨(), ?_⟩
    simp only [request, Catalogue.Table.reply, Catalogue.Table.update, hw]
    rfl
  | delete =>
    obtain ⟨-, -, rfl⟩ := Fabric.delete_eq_ok_iff.mp hf
    refine ⟨(), ?_⟩
    simp only [request, Catalogue.Table.reply, Catalogue.Table.delete, hw]
    rfl

/-- Where the row has moved on, the write finds no row. -/
theorem reply_missed (h : t.find? current.code = some row) (hv : current.version < row.version)
    (hf : rev.operation current expected = .ok f) :
    t.reply (rev.request f) = (.error (.notFound current.code), t) := by
  obtain ⟨-, -, hcode, hversion⟩ := operation_eq_ok hf
  have hw := Catalogue.Table.writable_of_moved (hcode ▸ h) (by omega : f.version < row.version + 1)
  rw [hcode] at hw
  cases rev <;>
    simp only [request, Catalogue.Table.reply, Catalogue.Table.update, Catalogue.Table.delete, hw]

end Revision

end FabricRegistry
