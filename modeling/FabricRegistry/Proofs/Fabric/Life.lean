import FabricRegistry.Proofs.Catalogue.Lookup
import FabricRegistry.Proofs.Fabric.Replay

/-!
The life of a fabric, from its creation or its return from storage on. Operations are tried on it
with whatever the caller gives, and its pending facts are taken at any time. What was taken and what
is still pending is one history. It replays from the row that the life began with to the fabric as
it is (`Life.replays_run`), and from this follows what is said of versions and of the order of facts
in a whole life (`Life.unbroken`).
-/

namespace FabricRegistry.Fabric

/-- an operation that is tried -/
inductive Attempt where
  | update (details : Details) (expected : ℕ)
  | delete (expected : ℕ)
  | reactivate (details : Details) (expected : ℕ)

namespace Attempt

/-- what the operation makes of a fabric -/
def on (f : Fabric) : Attempt → Except FabricError Fabric
  | update d expected => f.update d expected
  | delete expected => f.delete expected
  | reactivate d expected => f.reactivate d expected

/-- the change that the operation makes where it succeeds -/
def change (f : Fabric) : Attempt → Change
  | update d _ => .updated d
  | delete _ => .deleted
  | reactivate d _ => if f.status = .active then .updated d else .reactivated d

/-- The caller knows the version, the name is one, and only a reactivation finds a deleted
fabric. -/
def Allowed (f : Fabric) : Attempt → Prop
  | update d expected => f.status = .active ∧ expected = f.version ∧ d.validate = .ok ()
  | delete expected => f.status = .active ∧ expected = f.version
  | reactivate d expected => expected = f.version ∧ d.validate = .ok ()

end Attempt

variable {f g : Fabric} {a : Attempt} {origin : Option Fabric}

/-- An operation succeeds just where it is allowed. -/
theorem Attempt.on_eq_ok_iff : a.on f = .ok g ↔ a.Allowed f ∧ g = f.advance (a.change f) := by
  cases a with
  | update d expected => simp [on, Allowed, change, update_eq_ok_iff, and_assoc]
  | delete expected => simp [on, Allowed, change, delete_eq_ok_iff, and_assoc]
  | reactivate d expected => simp [on, Allowed, change, reactivate_eq_ok_iff, and_assoc]

/-- The fact of a change fits the row before it and leads to the row after it. -/
theorem onto?_advance (h : a.Allowed f) :
    (⟨f.code, f.version + 1, a.change f⟩ : Fact).onto? (some f.settled) =
      some (f.advance (a.change f)).settled := by
  cases a with
  | update d expected =>
    simp [Attempt.change, Fact.onto?, settled, advance, restore, Change.details?, h.1]
  | delete expected =>
    simp [Attempt.change, Fact.onto?, settled, advance, restore, Change.details?, h.1]
  | reactivate d expected =>
    cases hs : f.status <;>
      simp [Attempt.change, Fact.onto?, settled, advance, restore, Change.details?, hs]

/-! ### Lives -/

/-- a fabric with the batches of facts that were taken from it, oldest first -/
structure Life where
  fabric : Fabric
  taken : List (List Fact)

/-- what happens in a life -/
inductive Act where
  | attempt (a : Attempt)
  /-- the pending facts are taken -/
  | take

namespace Life

/-- the reply to an operation that is tried, and the life after it -/
def attempt (l : Life) (a : Attempt) : Except FabricError Unit × Life :=
  match a.on l.fabric with
  | .ok f => (.ok (), { l with fabric := f })
  | .error e => (.error e, l)

def take (l : Life) : Life :=
  { fabric := l.fabric.takeFacts.2, taken := l.taken ++ [l.fabric.takeFacts.1] }

def step (l : Life) : Act → Life
  | .attempt a => (l.attempt a).2
  | .take => l.take

/-- the life of a fabric in which this happens -/
def run (f : Fabric) (acts : List Act) : Life := acts.foldl step ⟨f, []⟩

theorem run_append_singleton (f : Fabric) (acts : List Act) (act : Act) :
    run f (acts ++ [act]) = (run f acts).step act := by
  simp [run]

/-- all facts of a life, those that were taken and then those that are pending -/
def history (l : Life) : List Fact := l.taken.flatten ++ l.fabric.pending

variable {l : Life}

theorem attempt_of_allowed (h : a.Allowed l.fabric) :
    l.attempt a = (.ok (), { l with fabric := l.fabric.advance (a.change l.fabric) }) := by
  rw [attempt, Attempt.on_eq_ok_iff.mpr ⟨h, rfl⟩]

theorem attempt_of_not_allowed (h : ¬ a.Allowed l.fabric) :
    ∃ e, a.on l.fabric = .error e ∧ l.attempt a = (.error e, l) := by
  unfold attempt
  cases ha : a.on l.fabric with
  | ok g => exact absurd (Attempt.on_eq_ok_iff.mp ha).1 h
  | error e => exact ⟨e, rfl, rfl⟩

/-- The facts that are taken are those that were pending, and none is pending then. -/
theorem take_eq (l : Life) :
    l.take = ⟨{ l.fabric with pending := [] }, l.taken ++ [l.fabric.pending]⟩ := by
  rw [take, takeFacts_eq]

@[simp] theorem history_take (l : Life) : l.take.history = l.history := by
  simp [history, take_eq]

/-! ### What a life begins with -/

/-- A fabric begins as a new one, with no row before it, or as the row that was stored. -/
inductive Begins : Option Fabric → Fabric → Prop where
  | created {text : String} {d : Details} {f : Fabric} (h : create text d = .ok f) : Begins none f
  | restored (code : Code) (d : Details) (status : Status) (version : ℕ) :
      Begins (some (restore code d status version)) (restore code d status version)

theorem Begins.replays (h : Begins origin f) :
    replayFrom origin (run f []).history = some (some f.settled) := by
  cases h with
  | created h =>
    obtain ⟨code, -, -, rfl⟩ := create_eq_ok h
    rfl
  | restored => rfl

theorem replays_step (h : replayFrom origin l.history = some (some l.fabric.settled)) (act : Act) :
    replayFrom origin (l.step act).history = some (some (l.step act).fabric.settled) := by
  cases act with
  | take => rwa [step, history_take]
  | attempt a =>
    by_cases ha : a.Allowed l.fabric
    · have hhistory : (l.attempt a).2.history =
          l.history ++ [⟨l.fabric.code, l.fabric.version + 1, a.change l.fabric⟩] := by
        simp [attempt_of_allowed ha, history, advance]
      rw [step, hhistory, replayFrom_append, h, Option.bind_some, replayFrom_cons,
        onto?_advance ha, attempt_of_allowed ha]
      rfl
    · obtain ⟨e, -, hattempt⟩ := attempt_of_not_allowed ha
      rwa [step, hattempt]

/-- **The history of a life replays** from the row that it began with to the fabric as it is. -/
theorem replays_run (h : Begins origin f) (acts : List Act) :
    replayFrom origin (run f acts).history = some (some (run f acts).fabric.settled) := by
  induction acts using List.reverseRecOn with
  | nil => exact h.replays
  | append_singleton acts act ih =>
    rw [run_append_singleton]
    exact replays_step ih act

/-! ### Facts in their order -/

/-- A reactivation is what comes behind a deletion, and comes nowhere else but at the beginning,
where it is what comes first to a deleted row. -/
structure Alternates (origin : Option Fabric) (facts : List Fact) : Prop where
  first : ∀ x rest, facts = x :: rest →
    (x.operation = .reactivated ↔ ∃ row, origin = some row ∧ row.status = .deleted)
  next : ∀ before x y rest, facts = before ++ x :: y :: rest →
    (y.operation = .reactivated ↔ x.operation = .deleted)

theorem alternates_of_replayFrom {facts : List Fact} {row : Option Fabric}
    (h : replayFrom origin facts = some row) : Alternates origin facts := by
  constructor
  · rintro x rest rfl
    rw [replayFrom_cons] at h
    obtain ⟨after, hx, -⟩ := Option.bind_eq_some_iff.mp h
    exact (Fact.status_of_onto? hx).2
  · rintro before x y rest rfl
    rw [replayFrom_append] at h
    obtain ⟨found, -, h⟩ := Option.bind_eq_some_iff.mp h
    rw [replayFrom_cons] at h
    obtain ⟨middle, hx, h⟩ := Option.bind_eq_some_iff.mp h
    rw [replayFrom_cons] at h
    obtain ⟨after, hy, -⟩ := Option.bind_eq_some_iff.mp h
    rw [(Fact.status_of_onto? hy).2, ← (Fact.status_of_onto? hx).1]
    simp

/-! ### The law -/

/-- A fabric has become one version later, and the one fact that was added to the pending ones says
so. It has the details as they are now, unless it is a deletion, which keeps them. -/
structure Raised (before after : Fabric) (change : Change) : Prop where
  code : after.code = before.code
  version : after.version = before.version + 1
  pending : after.pending = before.pending ++ [⟨after.code, after.version, change⟩]
  status : after.status = .deleted ↔ change.operation = .deleted
  details : change.operation ≠ .deleted → change.details? = some after.details
  kept : change.operation = .deleted → after.details = before.details

theorem raised_advance (f : Fabric) (c : Change) : Raised f (f.advance c) c where
  code := rfl
  version := rfl
  pending := rfl
  status := by cases c <;> simp [advance, Change.operation]
  details := by cases c <;> simp [advance, Change.operation, Change.details?]
  kept := by cases c <;> simp [advance, Change.operation, Change.details?]

/-- **A life has no gaps.** After anything that happened to a fabric, an operation that is not
allowed fails and leaves everything as it is, and one that is allowed leads to the next version and
adds the fact of its change to the pending ones. Who takes the pending facts is given all of them,
and leaves none pending and all else as it is. The facts that were taken and those that are pending
have the versions behind the one that the life began with, in order and up to the present
one. Among them deletions and reactivations alternate. -/
theorem unbroken (h : Begins origin f) (acts : List Act) :
    (∀ a : Attempt, ¬ a.Allowed (run f acts).fabric →
      ∃ e, a.on (run f acts).fabric = .error e ∧
        (run f acts).attempt a = (.error e, run f acts)) ∧
    (∀ a : Attempt, a.Allowed (run f acts).fabric →
      ∃ g, a.on (run f acts).fabric = .ok g ∧
        (run f acts).attempt a = (.ok (), ⟨g, (run f acts).taken⟩) ∧
        Raised (run f acts).fabric g (a.change (run f acts).fabric)) ∧
    run f (acts ++ [.take]) =
      ⟨{ (run f acts).fabric with pending := [] },
        (run f acts).taken ++ [(run f acts).fabric.pending]⟩ ∧
    (run f acts).history.map Fact.version =
      List.range' (versionOf origin + 1) (run f acts).history.length ∧
    (run f acts).fabric.version = versionOf origin + (run f acts).history.length ∧
    Alternates origin (run f acts).history := by
  have hreplays := replays_run h acts
  obtain ⟨hversions, hversion⟩ := map_version_of_replayFrom hreplays
  refine ⟨fun a ha => attempt_of_not_allowed ha, fun a ha => ?_, ?_, hversions, hversion,
    alternates_of_replayFrom hreplays⟩
  · exact ⟨_, Attempt.on_eq_ok_iff.mpr ⟨ha, rfl⟩, attempt_of_allowed ha, raised_advance _ _⟩
  · rw [run_append_singleton]
    exact take_eq _

/-! ### A fabric that was deleted when it was stored -/

/-- a deleted fabric at its fourth version -/
def silk : Fabric := restore ⟨"SK30", by decide, by decide⟩ ⟨"Silk", "m", "OLD"⟩ .deleted 4

/-- It comes back, is deleted and comes back again. Its facts are taken in between, and what a
caller tries who knows another version, or who gives no name, fails. -/
def silkActs : List Act :=
  [.attempt (.update ⟨"Silk", "m", "NEW"⟩ 4), .attempt (.reactivate ⟨"Silk", "m", "NEW"⟩ 4), .take,
    .attempt (.delete 4), .attempt (.delete 5), .attempt (.reactivate ⟨"", "m", "NEW"⟩ 6),
    .attempt (.reactivate ⟨"Silk", "m", "BACK"⟩ 6), .take, .take]

theorem unbroken_silk :
    Begins (some silk) silk ∧
      (run silk silkActs).history.map Fact.version = [5, 6, 7] ∧
      (run silk silkActs).fabric.version = 7 ∧
      Alternates (some silk) (run silk silkActs).history ∧
      (∃ g, (Attempt.delete 7).on (run silk silkActs).fabric = .ok g ∧
        Raised (run silk silkActs).fabric g .deleted) := by
  have hbegins : Begins (some silk) silk := .restored _ _ _ _
  have hlength : (run silk silkActs).history.length = 3 := by decide +kernel
  have hallowed : (Attempt.delete 7).Allowed (run silk silkActs).fabric :=
    ⟨by decide +kernel, by decide +kernel⟩
  obtain ⟨-, hallows, -, hversions, hversion, halternates⟩ := unbroken hbegins silkActs
  obtain ⟨g, hg, -, hraised⟩ := hallows _ hallowed
  rw [hlength] at hversions hversion
  exact ⟨hbegins, hversions, hversion, halternates, g, hg, hraised⟩

end Life

end FabricRegistry.Fabric
