import FabricRegistry.Proofs.Traffic.Basic

/-!
What one request to the table comes to for the command that makes it. Without a deadline the table
replies and the command goes on with the reply. With a deadline the request may also be given up,
and then the command fails with the name of the step, whether or not the table was changed.
-/

namespace FabricRegistry

namespace Command.Work

variable {α β γ : Type}

/-- what becomes of a result: the next part, or the failure again -/
def proceed (f : α → Work β) : Except CommandError α → Work β
  | .ok a => f a
  | .error e => fail e

@[simp] theorem proceed_ok (f : α → Work β) (a : α) : proceed f (.ok a) = f a := rfl

@[simp] theorem proceed_error (f : α → Work β) (e : CommandError) :
    proceed f (.error e) = fail e := rfl

theorem andThen_eq_bind (w : Work α) (f : α → Work β) : w.andThen f = w.bind (proceed f) := by
  unfold andThen
  congr 1

theorem andThen_assoc (w : Work α) (f : α → Work β) (g : β → Work γ) :
    (w.andThen f).andThen g = w.andThen fun a => (f a).andThen g := by
  simp only [andThen_eq_bind, Dialogue.bind_assoc]
  congr 1
  funext r
  cases r <;> rfl

end Command.Work

namespace Traffic

open Command (Work bounded write missedWrite)

variable {channel : Channel} {timing : Timing} {s : Stores} {t : Catalogue.Table}
  {i : Invocation} {step : Step}

/-- A request of storage is answered, or given up before or after it took effect. -/
theorem Timing.within_cases {α σ : Type} (timing : Timing) (deadline : Option Instant)
    (act : σ → α × σ) (s : σ) :
    timing.within deadline act s = (some (act s).1, (act s).2) ∨
    (deadline ≠ none ∧ (timing.within deadline act s = (none, s) ∨
      timing.within deadline act s = (none, (act s).2))) := by
  cases deadline with
  | none => exact Or.inl rfl
  | some d =>
    cases timing with
    | inTime => exact Or.inl rfl
    | cutBefore => exact Or.inr ⟨by simp, Or.inl rfl⟩
    | cutAfter => exact Or.inr ⟨by simp, Or.inr rfl⟩

/-- A request to the table: the reply is heard, or the deadline passes before it. -/
theorem advance_bounded (channel : Channel) (timing : Timing) (i : Invocation) (step : Step)
    (request : Catalogue.Request)
    (f : Except CommandError request.Answer → Work Outcome) (s : Stores) :
    advance channel timing ((bounded i step request).bind f) s =
      (f ((s.table.reply request).1.mapError .ofCatalogue),
        { s with table := (s.table.reply request).2 }) ∨
    (i.deadline ≠ none ∧
      (advance channel timing ((bounded i step request).bind f) s =
        (f (.error (.deadlineExceeded step.text)), s) ∨
      advance channel timing ((bounded i step request).bind f) s =
        (f (.error (.deadlineExceeded step.text)),
          { s with table := (s.table.reply request).2 }))) := by
  simp only [bounded, Dialogue.bind, advance, Stores.reply]
  rcases timing.within_cases i.deadline (Stores.askTable request) s with h | ⟨hd, h | h⟩
  · left
    rw [h]
    simp only [Stores.askTable]
    cases (s.table.reply request).1 <;> rfl
  · exact Or.inr ⟨hd, Or.inl (by rw [h]; rfl)⟩
  · exact Or.inr ⟨hd, Or.inr (by rw [h]; rfl)⟩

theorem advance_granted {request : Catalogue.Request} {a : request.Answer}
    (h : s.table.reply request = (.ok a, t)) (f : request.Answer → Work Outcome) :
    advance channel timing ((bounded i step request).andThen f) s = (f a, { s with table := t }) ∨
    (i.deadline ≠ none ∧
      (advance channel timing ((bounded i step request).andThen f) s =
        (.fail (.deadlineExceeded step.text), s) ∨
      advance channel timing ((bounded i step request).andThen f) s =
        (.fail (.deadlineExceeded step.text), { s with table := t }))) := by
  have := advance_bounded channel timing i step request (Work.proceed f) s
  rw [Work.andThen_eq_bind]
  rwa [h] at this

theorem advance_refused {request : Catalogue.Request} {e : Catalogue.Error}
    (h : s.table.reply request = (.error e, s.table)) (f : request.Answer → Work Outcome) :
    advance channel timing ((bounded i step request).andThen f) s = (.fail (.ofCatalogue e), s) ∨
    (i.deadline ≠ none ∧
      advance channel timing ((bounded i step request).andThen f) s =
        (.fail (.deadlineExceeded step.text), s)) := by
  have := advance_bounded channel timing i step request (Work.proceed f) s
  rw [Work.andThen_eq_bind]
  rw [h] at this
  rcases this with h | ⟨hd, h | h⟩
  · exact Or.inl h
  · exact Or.inr ⟨hd, h⟩
  · exact Or.inr ⟨hd, h⟩

theorem advance_write_granted {request : Catalogue.Request} {a : request.Answer} {code : Code}
    {expected : ℕ} (h : s.table.reply request = (.ok a, t)) (f : Unit → Work Outcome) :
    advance channel timing ((write i step request code expected).andThen f) s =
      (f (), { s with table := t }) ∨
    (i.deadline ≠ none ∧
      (advance channel timing ((write i step request code expected).andThen f) s =
        (.fail (.deadlineExceeded step.text), s) ∨
      advance channel timing ((write i step request code expected).andThen f) s =
        (.fail (.deadlineExceeded step.text), { s with table := t }))) := by
  rw [Work.andThen_eq_bind]
  unfold write
  rw [Dialogue.bind_assoc]
  have := fun f => advance_bounded channel timing i step request f s
  rw [h] at this
  exact this _

theorem advance_write_missed {request : Catalogue.Request} {code c : Code} {expected : ℕ}
    (h : s.table.reply request = (.error (.notFound c), s.table)) (f : Unit → Work Outcome) :
    advance channel timing ((write i step request code expected).andThen f) s =
      ((missedWrite i code expected).andThen f, s) ∨
    (i.deadline ≠ none ∧
      advance channel timing ((write i step request code expected).andThen f) s =
        (.fail (.deadlineExceeded step.text), s)) := by
  rw [Work.andThen_eq_bind, Work.andThen_eq_bind]
  unfold write
  rw [Dialogue.bind_assoc]
  have := fun f => advance_bounded channel timing i step request f s
  rw [h] at this
  rcases this _ with h | ⟨hd, h | h⟩
  · exact Or.inl h
  · exact Or.inr ⟨hd, h⟩
  · exact Or.inr ⟨hd, h⟩

end Traffic

end FabricRegistry
