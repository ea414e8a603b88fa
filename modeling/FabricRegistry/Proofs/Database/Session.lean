import FabricRegistry.Proofs.Database.Rows
import FabricRegistry.Proofs.Dialogue.Transcript
import FabricRegistry.Proofs.Except

/-!
What a session comes to with a database that replies what it likes. The calls of a transaction are
those of its work between the begin and the commit, or up to where it is given up (`Enclosed`).
Where the work leaves the commit to the transaction and succeeds exactly when its writes are done,
the transaction is committed for these writes and no others (`Enclosed.commits_eq_one_iff`), and it
succeeds exactly when the commit does (`Enclosed.ok_iff`).

What a statement asks or writes is read from its text and its parameters (`Statement.Selects`,
`Statement.Inserts`, `Statement.Updates`).
-/

namespace FabricRegistry.Database

open Dialogue

/-! ### Statements that write -/

namespace Statement

def isCommit : Statement → Bool
  | commit => true
  | _ => false

/-- The query of the statement writes rows. -/
def writes (s : Statement) : Bool :=
  match s.query with
  | .insert .. | .update .. => true
  | _ => false

/-- The text of the statement asks, with its parameters, for the columns of the rows of a table
whose columns have the values `known`. -/
def Selects (s : Statement) (columns : List String) (table : String) (known : Row) : Prop :=
  ∃ conditions order, Query.read? s.text = some (.select columns table conditions order) ∧
    ∀ time, given s.params time conditions = known

/-- The text of the statement says, with its parameters, that a row goes into a table. -/
def Inserts (s : Statement) (table : String) (row : Row) : Prop :=
  ∃ columns values, Query.read? s.text = some (.insert table columns values) ∧
    ∀ time, given s.params time (columns.zip values) = row

/-- The text of the statement says, with its parameters, that columns get the values `new`, which
may depend on the time, in the rows of a table whose columns have the values `old`. -/
def Updates (s : Statement) (table : String) (new : Cell → Row) (old : Row) : Prop :=
  ∃ assignments conditions, Query.read? s.text = some (.update table assignments conditions) ∧
    ∀ time, given s.params time assignments = new time ∧ given s.params time conditions = old

@[simp] theorem writes_begin : begin.writes = false := rfl

@[simp] theorem writes_commit : commit.writes = false := rfl

end Statement

/-! ### Calls -/

/-- a statement with the reply to it -/
abbrev Call : Type := Exchange fun _ : Statement => Except Failure Reply

/-- how often a transaction is committed, or tried to be -/
def commits (calls : List Call) : ℕ := calls.countP fun c => c.1.isCommit

/-- The call is a write that succeeded. -/
def Call.isDone : Call → Bool
  | ⟨s, .ok _⟩ => s.writes
  | ⟨_, .error _⟩ => false

/-- the writes that succeeded, in their order -/
def carriedOut (calls : List Call) : List Statement := (calls.filter Call.isDone).map Sigma.fst

@[simp] theorem Call.isDone_ok (s : Statement) (reply : Reply) :
    isDone ⟨s, .ok reply⟩ = s.writes := rfl

@[simp] theorem Call.isDone_error (s : Statement) (f : Failure) :
    isDone ⟨s, .error f⟩ = false := rfl

@[simp] theorem Call.isDone_rollback (reply : Except Failure Reply) :
    isDone ⟨.rollback, reply⟩ = false := by
  cases reply <;> rfl

@[simp] theorem commits_nil : commits [] = 0 := rfl

@[simp] theorem commits_cons (c : Call) (calls : List Call) :
    commits (c :: calls) = commits calls + if c.1.isCommit then 1 else 0 :=
  List.countP_cons ..

@[simp] theorem commits_append (calls calls' : List Call) :
    commits (calls ++ calls') = commits calls + commits calls' :=
  List.countP_append ..

@[simp] theorem carriedOut_nil : carriedOut [] = [] := rfl

@[simp] theorem carriedOut_cons (c : Call) (calls : List Call) :
    carriedOut (c :: calls) = if c.isDone then c.1 :: carriedOut calls else carriedOut calls := by
  unfold carriedOut
  cases hc : c.isDone <;> simp [hc]

@[simp] theorem carriedOut_append (calls calls' : List Call) :
    carriedOut (calls ++ calls') = carriedOut calls ++ carriedOut calls' := by
  simp [carriedOut]

variable {ε α β : Type} {calls : List Call} {r : Except ε α} {b : β}

theorem calls_execute {s : Statement} {failed : Failure → ε} {next : Except ε Reply → Session β}
    (h : Transcript ((execute s failed).bind next) calls b) :
    ∃ reply rest, calls = ⟨s, reply⟩ :: rest ∧
      Transcript (next (reply.mapError failed)) rest b := by
  obtain ⟨reply, rest, rfl, hrest⟩ := transcript_ask_iff.mp h
  refine ⟨reply, rest, rfl, ?_⟩
  cases reply <;> exact hrest

/-- A statement whose failure ends the session. -/
theorem calls_attempt {s : Statement} {failed : Failure → ε}
    {next : Except ε Reply → Session (Except ε α)}
    (h : Transcript ((execute s failed).bind next) calls r)
    (hnext : ∀ e, next (.error e) = .done (.error e)) :
    (∃ f, calls = [⟨s, .error f⟩] ∧ r = .error (failed f)) ∨
      ∃ reply rest, calls = ⟨s, .ok reply⟩ :: rest ∧ Transcript (next (.ok reply)) rest r := by
  obtain ⟨reply, rest, rfl, hrest⟩ := calls_execute h
  cases reply with
  | error f =>
    rw [mapError_error, hnext] at hrest
    obtain ⟨rfl, rfl⟩ := transcript_done_iff.mp hrest
    exact Or.inl ⟨f, rfl, rfl⟩
  | ok reply => exact Or.inr ⟨reply, rest, rfl, hrest⟩

/-! ### Transactions -/

/-- The calls of a transaction with its result, by the calls of the work and what it comes to. -/
inductive Enclosed (beginFailed commitFailed : Failure → ε)
    (work : List Call → Except ε α → Prop) : List Call → Except ε α → Prop where
  | notBegun {f : Failure} :
      Enclosed beginFailed commitFailed work [⟨.begin, .error f⟩] (.error (beginFailed f))
  | givenUp {begun : Reply} {ended : Except Failure Reply} {calls e} (h : work calls (.error e)) :
      Enclosed beginFailed commitFailed work
        (⟨.begin, .ok begun⟩ :: (calls ++ [⟨.rollback, ended⟩])) (.error e)
  | notCommitted {begun : Reply} {ended : Except Failure Reply} {calls a} {f : Failure}
      (h : work calls (.ok a)) :
      Enclosed beginFailed commitFailed work
        (⟨.begin, .ok begun⟩ :: (calls ++ [⟨.commit, .error f⟩, ⟨.rollback, ended⟩]))
        (.error (commitFailed f))
  | committed {begun ended : Reply} {calls a} (h : work calls (.ok a)) :
      Enclosed beginFailed commitFailed work
        (⟨.begin, .ok begun⟩ :: (calls ++ [⟨.commit, .ok ended⟩])) (.ok a)

section Transactions

variable {beginFailed commitFailed : Failure → ε} {work : List Call → Except ε α → Prop}
  {done : List Statement → Prop}

theorem calls_abandon {e : ε} (h : Transcript (abandon e : Session (Except ε α)) calls r) :
    ∃ ended, calls = [⟨.rollback, ended⟩] ∧ r = .error e := by
  obtain ⟨ended, rest, rfl, hrest⟩ := transcript_ask_iff.mp h
  obtain ⟨rfl, rfl⟩ := transcript_done_iff.mp hrest
  exact ⟨ended, rfl, rfl⟩

/-- **The calls of a transaction.** -/
theorem enclosed_of_transaction {d : Session (Except ε α)}
    (h : Transcript (transaction beginFailed commitFailed d) calls r)
    (hd : ∀ calls r, Transcript d calls r → work calls r) :
    Enclosed beginFailed commitFailed work calls r := by
  rcases calls_attempt h fun _ => rfl with ⟨f, rfl, rfl⟩ | ⟨begun, rest, rfl, hrest⟩
  · exact .notBegun
  · obtain ⟨inner, result, last, rfl, hinner, hlast⟩ := transcript_bind_iff.mp hrest
    cases result with
    | error e =>
      obtain ⟨ended, rfl, rfl⟩ := calls_abandon hlast
      exact .givenUp (hd _ _ hinner)
    | ok a =>
      obtain ⟨reply, last, rfl, hcommit⟩ := calls_execute hlast
      cases reply with
      | error f =>
        -- a commit that fails is followed by a rollback
        obtain ⟨ended, rfl, rfl⟩ := calls_abandon hcommit
        exact .notCommitted (hd _ _ hinner)
      | ok ended =>
        obtain ⟨rfl, rfl⟩ := transcript_done_iff.mp hcommit
        exact .committed (hd _ _ hinner)

/-- The work of a transaction leaves the commit to the transaction, and succeeds when the writes
that were carried out are those that are to be done. -/
structure SucceedsWhen (work : List Call → Except ε α → Prop) (done : List Statement → Prop) :
    Prop where
  commits_eq_zero : ∀ calls r, work calls r → commits calls = 0
  ok_iff : ∀ calls r, work calls r → ((∃ a, r = .ok a) ↔ done (carriedOut calls))

/-- **A transaction is committed for the writes that are to be done**, and never twice. -/
theorem Enclosed.commits_eq_one_iff (h : Enclosed beginFailed commitFailed work calls r)
    (hw : SucceedsWhen work done) (hnil : ¬ done []) :
    (commits calls = 1 ↔ done (carriedOut calls)) ∧ commits calls ≤ 1 := by
  cases h with
  | notBegun => simp [Statement.isCommit, hnil]
  | givenUp hwork =>
    have hnot := (hw.ok_iff _ _ hwork).not.mp (by simp)
    simp [Statement.isCommit, hw.commits_eq_zero _ _ hwork, hnot]
  | notCommitted hwork =>
    have hdone := (hw.ok_iff _ _ hwork).mp ⟨_, rfl⟩
    simp [Statement.isCommit, hw.commits_eq_zero _ _ hwork, hdone]
  | committed hwork =>
    have hdone := (hw.ok_iff _ _ hwork).mp ⟨_, rfl⟩
    simp [Statement.isCommit, hw.commits_eq_zero _ _ hwork, hdone]

theorem not_mem_of_commits_eq_zero (h : commits calls = 0) (reply : Except Failure Reply) :
    (⟨.commit, reply⟩ : Call) ∉ calls :=
  fun hmem => List.countP_eq_zero.mp h _ hmem rfl

/-- **A transaction succeeds when it is committed.** -/
theorem Enclosed.ok_iff (h : Enclosed beginFailed commitFailed work calls r)
    (hw : SucceedsWhen work done) :
    (∃ a, r = .ok a) ↔ ∃ reply, (⟨.commit, .ok reply⟩ : Call) ∈ calls := by
  cases h with
  | notBegun => simp
  | givenUp hwork => simp [not_mem_of_commits_eq_zero (hw.commits_eq_zero _ _ hwork)]
  | notCommitted hwork => simp [not_mem_of_commits_eq_zero (hw.commits_eq_zero _ _ hwork)]
  | committed hwork => simp [not_mem_of_commits_eq_zero (hw.commits_eq_zero _ _ hwork)]

end Transactions

end FabricRegistry.Database
