import FabricRegistry.Log

/-!
Dialogues: the work of a component that depends on others. It ends with a result, makes a remark, or
asks for something and goes on with the reply. Whoever answers decides what the others do, so one
definition of a component serves every collaborator it may meet.
-/

namespace FabricRegistry

/-- work that asks requests of the type `Ask`, each with replies of a type of its own -/
inductive Dialogue {Ask : Type} (Reply : Ask → Type) (α : Type) : Type where
  | done (a : α)
  | remark (r : Remark) (rest : Dialogue Reply α)
  | ask (q : Ask) (next : Reply q → Dialogue Reply α)

namespace Dialogue

variable {Ask Ask' : Type} {Reply : Ask → Type} {Reply' : Ask' → Type} {α β γ σ : Type}

/-- one dialogue, then another that depends on its result -/
def bind : Dialogue Reply α → (α → Dialogue Reply β) → Dialogue Reply β
  | done a, f => f a
  | remark r rest, f => remark r (rest.bind f)
  | ask q next, f => ask q fun a => (next a).bind f

instance : Monad (Dialogue Reply) where
  pure := done
  bind := bind

def request (q : Ask) : Dialogue Reply (Reply q) := ask q done

def say (level : Level) (message : String) : Dialogue Reply Unit :=
  remark ⟨level, message⟩ (done ())

/-- the dialogue in which every request is answered by a dialogue of its own -/
def expand (answer : (q : Ask) → Dialogue Reply' (Reply q)) :
    Dialogue Reply α → Dialogue Reply' α
  | done a => done a
  | remark r rest => remark r (expand answer rest)
  | ask q next => (answer q).bind fun a => expand answer (next a)

/-- the run against collaborators that share a state, with the remarks noted in it -/
def run (answer : (q : Ask) → σ → Reply q × σ) (note : Remark → σ → σ) :
    Dialogue Reply α → σ → α × σ
  | done a, s => (a, s)
  | remark r rest, s => run answer note rest (note r s)
  | ask q next, s =>
    let (a, s) := answer q s
    run answer note (next a) s

@[simp] theorem bind_done (d : Dialogue Reply α) : d.bind done = d := by
  induction d with
  | done a => rfl
  | remark r rest ih => simp [bind, ih]
  | ask q next ih => simp [bind, ih]

theorem bind_assoc (d : Dialogue Reply α) (f : α → Dialogue Reply β) (g : β → Dialogue Reply γ) :
    (d.bind f).bind g = d.bind fun a => (f a).bind g := by
  induction d with
  | done a => rfl
  | remark r rest ih => simp [bind, ih]
  | ask q next ih => simp [bind, ih]

theorem run_bind (answer : (q : Ask) → σ → Reply q × σ) (note : Remark → σ → σ)
    (d : Dialogue Reply α) (f : α → Dialogue Reply β) (s : σ) :
    run answer note (d.bind f) s =
      run answer note (f (run answer note d s).1) (run answer note d s).2 := by
  induction d generalizing s with
  | done a => rfl
  | remark r rest ih => simp [bind, run, ih]
  | ask q next ih => simp [bind, run, ih]

end Dialogue

end FabricRegistry
