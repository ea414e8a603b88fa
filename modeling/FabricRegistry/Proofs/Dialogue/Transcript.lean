import FabricRegistry.Dialogue

/-!
What a dialogue may come to, whoever it is with. A transcript of a dialogue has its requests with
the replies to them, in order, and the result. Every reply to a request goes on in some transcript,
and what collaborators do reply makes one (`transcript_run`), so what holds of all transcripts holds
whatever the collaborators reply (`always_of_transcript`). A transcript of two dialogues one after
the other is a transcript of the first and then one of the second (`transcript_bind_iff`), so
transcripts are opened piece by piece.
-/

namespace FabricRegistry

/-- a request with the reply to it -/
abbrev Exchange {Ask : Type} (Reply : Ask → Type) : Type := (q : Ask) × Reply q

namespace Dialogue

variable {Ask : Type} {Reply : Ask → Type} {α β σ : Type}

/-- The requests of a dialogue with the replies to them, in order, and the result that it then
has. -/
inductive Transcript : Dialogue Reply α → List (Exchange Reply) → α → Prop where
  | done {a} : Transcript (.done a) [] a
  | remark {r rest calls a} (h : Transcript rest calls a) : Transcript (.remark r rest) calls a
  | ask {q next calls a} (reply : Reply q) (h : Transcript (next reply) calls a) :
      Transcript (.ask q next) (⟨q, reply⟩ :: calls) a

/-- the requests of the run against collaborators that share a state, with their replies -/
def exchanges (answer : (q : Ask) → σ → Reply q × σ) (note : Remark → σ → σ) :
    Dialogue Reply α → σ → List (Exchange Reply)
  | done _, _ => []
  | remark r rest, s => exchanges answer note rest (note r s)
  | ask q next, s =>
    ⟨q, (answer q s).1⟩ :: exchanges answer note (next (answer q s).1) (answer q s).2

variable {d : Dialogue Reply α} {f : α → Dialogue Reply β} {calls : List (Exchange Reply)}
  {a a' : α} {b : β}

/-- **A run makes a transcript.** -/
theorem transcript_run (answer : (q : Ask) → σ → Reply q × σ) (note : Remark → σ → σ)
    (d : Dialogue Reply α) (s : σ) :
    Transcript d (d.exchanges answer note s) (d.run answer note s).1 := by
  induction d generalizing s with
  | done a => exact .done
  | remark r rest ih => exact .remark (ih _)
  | ask q next ih => exact .ask _ (ih _ _)

/-- Whatever collaborators that share a state reply, the requests of a dialogue with their replies
and its result are as `p` says. -/
def Always (d : Dialogue Reply α) (p : List (Exchange Reply) → α → Prop) : Prop :=
  ∀ (σ : Type) (answer : (q : Ask) → σ → Reply q × σ) (note : Remark → σ → σ) (s : σ),
    p (d.exchanges answer note s) (d.run answer note s).1

theorem always_of_transcript {p : List (Exchange Reply) → α → Prop}
    (h : ∀ calls a, Transcript d calls a → p calls a) : Always d p :=
  fun _ answer note s => h _ _ (transcript_run answer note d s)

@[simp] theorem transcript_done_iff : Transcript (.done a : Dialogue Reply α) calls a' ↔
    calls = [] ∧ a' = a := by
  constructor
  · intro h
    cases h with
    | done => exact ⟨rfl, rfl⟩
  · rintro ⟨rfl, rfl⟩
    exact .done

@[simp] theorem transcript_remark_iff {r : Remark} :
    Transcript (.remark r d) calls a ↔ Transcript d calls a := by
  constructor
  · intro h
    cases h with
    | remark h => exact h
  · exact .remark

theorem transcript_ask_iff {q : Ask} {next : Reply q → Dialogue Reply α} :
    Transcript (.ask q next) calls a ↔
      ∃ reply rest, calls = ⟨q, reply⟩ :: rest ∧ Transcript (next reply) rest a := by
  constructor
  · intro h
    cases h with
    | ask reply h => exact ⟨reply, _, rfl, h⟩
  · rintro ⟨reply, rest, rfl, h⟩
    exact .ask reply h

/-- **One dialogue after the other.** -/
theorem transcript_bind_iff : Transcript (d.bind f) calls b ↔
    ∃ first a rest, calls = first ++ rest ∧ Transcript d first a ∧ Transcript (f a) rest b := by
  induction d generalizing calls with
  | done a =>
    simp only [bind, transcript_done_iff]
    constructor
    · intro h
      exact ⟨[], a, calls, rfl, ⟨rfl, rfl⟩, h⟩
    · rintro ⟨_, _, _, rfl, ⟨rfl, rfl⟩, h⟩
      exact h
  | remark r d ih => simp [bind, ih]
  | ask q next ih =>
    simp only [bind, transcript_ask_iff, ih]
    constructor
    · rintro ⟨reply, _, rfl, first, a, rest, rfl, h, hf⟩
      exact ⟨⟨q, reply⟩ :: first, a, rest, rfl, ⟨reply, first, rfl, h⟩, hf⟩
    · rintro ⟨_, a, rest, rfl, ⟨reply, first, rfl, h⟩, hf⟩
      exact ⟨reply, first ++ rest, rfl, first, a, rest, rfl, h, hf⟩

end Dialogue

end FabricRegistry
