import FabricRegistry.Log

/-!
How a chain of checks computes. The equations are `simp` lemmas, so that a proof about a chain names
what the chain does and not how the monad is made. A chain comes to a result exactly when each of
its links does (`bind_eq_ok_iff`), and what holds of the errors of every link holds of its errors
(`FailsWith`).
-/

namespace FabricRegistry

variable {ε ε' α β : Type}

@[simp] theorem mapError_ok (f : ε → ε') (a : α) :
    (Except.ok a : Except ε α).mapError f = .ok a := rfl

@[simp] theorem mapError_error (f : ε → ε') (e : ε) :
    (Except.error e : Except ε α).mapError f = .error (f e) := rfl

@[simp] theorem ok_bind (a : α) (f : α → Except ε β) : (Except.ok a >>= f) = f a := rfl

@[simp] theorem error_bind (e : ε) (f : α → Except ε β) :
    ((Except.error e : Except ε α) >>= f) = .error e := rfl

@[simp] theorem pure_eq_ok (a : α) : (pure a : Except ε α) = .ok a := rfl

@[simp] theorem throw_eq_error (e : ε) : (throw e : Except ε α) = .error e := rfl

theorem bind_eq_ok_iff {x : Except ε α} {f : α → Except ε β} {b : β} :
    (x >>= f) = .ok b ↔ ∃ a, x = .ok a ∧ f a = .ok b := by
  cases x <;> simp

theorem mapError_eq_ok_iff {x : Except ε α} {f : ε → ε'} {a : α} :
    x.mapError f = .ok a ↔ x = .ok a := by
  cases x <;> simp

theorem map_eq_ok_iff {x : Except ε α} {f : α → β} {b : β} :
    x.map f = .ok b ↔ ∃ a, x = .ok a ∧ f a = b := by
  cases x <;> simp [Except.map]

/-! ### Errors -/

/-- The check has no errors but those of a kind. -/
def FailsWith (kind : ε → Prop) (x : Except ε α) : Prop := ∀ e, x = .error e → kind e

namespace FailsWith

variable {kind : ε → Prop}

theorem ok (a : α) : FailsWith kind (.ok a) := nofun

theorem error {e : ε} (h : kind e) : FailsWith kind (.error e : Except ε α) := by
  rintro _ ⟨⟩
  exact h

theorem bind {x : Except ε α} {f : α → Except ε β} (hx : FailsWith kind x)
    (hf : ∀ a, FailsWith kind (f a)) : FailsWith kind (x >>= f) := by
  cases x with
  | error e => exact error (hx e rfl)
  | ok a => exact hf a

theorem mapError {x : Except ε α} {f : ε → ε'} {kind : ε' → Prop} (hf : ∀ e, kind (f e)) :
    FailsWith kind (x.mapError f) := by
  cases x with
  | error e => exact error (hf e)
  | ok a => exact ok a

end FailsWith

end FabricRegistry
