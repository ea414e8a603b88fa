import FabricRegistry.Fabric.Basic
import Mathlib.Data.List.Induction

/-!
A row as its facts tell it. `Fact.onto?` says which facts fit a row and what becomes of it, and
`replay` folds a history from nothing. It is defined without the operations on fabrics, so that
what the operations record can be held against it.

A history that replays has the versions `1, …, n` in this order, where `n` is the version of the
row (`map_version_of_replay`). A version therefore names one fact of the history.
-/

namespace FabricRegistry

/-- the version of a row, zero where there is none -/
def Fabric.versionOf (row : Option Fabric) : ℕ := (row.map Fabric.version).getD 0

@[simp] theorem Fabric.versionOf_none : Fabric.versionOf none = 0 := rfl

@[simp] theorem Fabric.versionOf_some (f : Fabric) : Fabric.versionOf (some f) = f.version := rfl

namespace Fact

/-- The row that a fact leaves, none where the fact does not fit: a creation fits nothing and is
version 1, every other fact is of the row's code and one version ahead, an update and a deletion
fit an active row, a reactivation a deleted one. -/
def onto? (x : Fact) (before : Option Fabric) : Option Fabric :=
  match before, x.change with
  | none, .created d => if x.version = 1 then some (.restore x.code d .active 1) else none
  | some row, .updated d =>
    if x.code = row.code ∧ x.version = row.version + 1 ∧ row.status = .active then
      some (.restore row.code d .active x.version)
    else none
  | some row, .deleted =>
    if x.code = row.code ∧ x.version = row.version + 1 ∧ row.status = .active then
      some (.restore row.code row.details .deleted x.version)
    else none
  | some row, .reactivated d =>
    if x.code = row.code ∧ x.version = row.version + 1 ∧ row.status = .deleted then
      some (.restore row.code d .active x.version)
    else none
  | _, _ => none

/-- A fact that fits leads to its own version, one ahead of the row before. -/
theorem version_of_onto? {x : Fact} {before : Option Fabric} {row : Fabric}
    (h : x.onto? before = some row) :
    x.version = Fabric.versionOf before + 1 ∧ row.version = x.version := by
  obtain ⟨code, version, change⟩ := x
  cases before with
  | none =>
    cases change <;> simp only [onto?, reduceCtorEq] at h
    obtain ⟨hv, ⟨⟩⟩ := Option.ite_none_right_eq_some.mp h
    exact ⟨hv, hv.symm⟩
  | some row =>
    cases change <;> simp only [onto?, reduceCtorEq] at h
    all_goals
      obtain ⟨hv, ⟨⟩⟩ := Option.ite_none_right_eq_some.mp h
      exact ⟨hv.2.1, rfl⟩

/-- Deletions are the facts that leave a deleted row, and reactivations those that find one. -/
theorem status_of_onto? {x : Fact} {before : Option Fabric} {row : Fabric}
    (h : x.onto? before = some row) :
    (row.status = .deleted ↔ x.operation = .deleted) ∧
      (x.operation = .reactivated ↔ ∃ old, before = some old ∧ old.status = .deleted) := by
  obtain ⟨code, version, change⟩ := x
  cases before with
  | none =>
    cases change <;> simp only [onto?, reduceCtorEq] at h
    obtain ⟨-, ⟨⟩⟩ := Option.ite_none_right_eq_some.mp h
    simp [Fabric.restore, operation, Change.operation]
  | some old =>
    cases change <;> simp only [onto?, reduceCtorEq] at h
    all_goals
      obtain ⟨hfits, ⟨⟩⟩ := Option.ite_none_right_eq_some.mp h
      simp [Fabric.restore, operation, Change.operation, hfits.2.2]

end Fact

/-- The row that a history leaves, none where a fact does not fit the ones before it. -/
def replay (facts : List Fact) : Option (Option Fabric) :=
  facts.foldlM (fun row x => (x.onto? row).map some) none

@[simp] theorem replay_nil : replay [] = some none := rfl

theorem replay_append_singleton (facts : List Fact) (x : Fact) :
    replay (facts ++ [x]) = (replay facts).bind fun row => (x.onto? row).map some := by
  unfold replay
  rw [List.foldlM_append]
  cases List.foldlM (fun row x => (Fact.onto? x row).map some) none facts <;> simp

theorem replay_snoc {facts : List Fact} {x : Fact} {before : Option Fabric} {row : Fabric}
    (h : replay facts = some before) (hx : x.onto? before = some row) :
    replay (facts ++ [x]) = some (some row) := by
  simp [replay_append_singleton, h, hx]

/-- The row that facts leave which come upon a row, none where one of them does not fit. -/
def replayFrom (before : Option Fabric) (facts : List Fact) : Option (Option Fabric) :=
  facts.foldlM (fun row x => (x.onto? row).map some) before

@[simp] theorem replayFrom_nil (before : Option Fabric) : replayFrom before [] = some before := rfl

theorem replayFrom_cons (before : Option Fabric) (x : Fact) (facts : List Fact) :
    replayFrom before (x :: facts) =
      (x.onto? before).bind fun row => replayFrom (some row) facts := by
  unfold replayFrom
  rw [List.foldlM_cons]
  cases x.onto? before <;> rfl

theorem replayFrom_append (before : Option Fabric) (facts more : List Fact) :
    replayFrom before (facts ++ more) =
      (replayFrom before facts).bind fun row => replayFrom row more :=
  List.foldlM_append

/-- **Facts that come upon a row have the versions behind its own, in order**, and they lead to the
last of them. -/
theorem map_version_of_replayFrom {facts : List Fact} {before row : Option Fabric}
    (h : replayFrom before facts = some row) :
    facts.map Fact.version = List.range' (Fabric.versionOf before + 1) facts.length ∧
      Fabric.versionOf row = Fabric.versionOf before + facts.length := by
  induction facts generalizing before with
  | nil =>
    cases h
    exact ⟨rfl, rfl⟩
  | cons x facts ih =>
    rw [replayFrom_cons] at h
    obtain ⟨after, hx, hfacts⟩ := Option.bind_eq_some_iff.mp h
    obtain ⟨hv, hafter⟩ := Fact.version_of_onto? hx
    obtain ⟨hversions, hrow⟩ := ih hfacts
    rw [Fabric.versionOf_some, hafter, hv] at hversions hrow
    refine ⟨?_, by rw [hrow, List.length_cons]; omega⟩
    rw [List.map_cons, hversions, hv, List.length_cons, List.range'_succ]

/-- **A history that replays has the versions from 1 to the version of its row, in order.** -/
theorem map_version_of_replay {facts : List Fact} {row : Option Fabric}
    (h : replay facts = some row) :
    facts.map Fact.version = List.range' 1 (Fabric.versionOf row) := by
  have hfrom : replayFrom none facts = some row := h
  obtain ⟨hversions, hrow⟩ := map_version_of_replayFrom hfrom
  rw [hversions, hrow, Fabric.versionOf_none, Nat.zero_add, Nat.zero_add]

end FabricRegistry
