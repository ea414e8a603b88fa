import FabricRegistry.Proofs.Database.Rows
import Mathlib.Data.List.Sort

/-!
What a database does with the queries of the registry. `Answers` is the meaning of a query on the
rows of the tables: which replies it may have and what it leaves. A session is judged by these
replies alone (`Ensures`), so what is proved of it holds with every server whose answers they are;
`engine` is such a server.
-/

namespace FabricRegistry.Database

/-! ### The meaning of a query -/

/-- the query reads or writes rows -/
def Query.touchesRows : Query → Bool
  | select .. | insert .. | update .. => true
  | _ => false

/-- what a query writes: a table, its rows afterwards and how many of them it wrote -/
def Query.written? (ps : List Cell) (time : Cell) (t : Tables) : Query →
    Option (String × List Row × ℕ)
  | insert table columns values =>
    some (table,
      t table ++
        [(given ps time (columns.zip values)).onto ((Schema.named table).defaults time)], 1)
  | update table assignments conditions =>
    some (table,
      (t table).map (updateRow ps time assignments conditions),
      (t table).countP (meets ps time conditions))
  | _ => none

/-- the rows ascend by the column, where one is given -/
def Ordered (order : Option String) (rows : List Row) : Prop :=
  ∀ column ∈ order, rows.Pairwise fun r r' => (r.value column).rank ≤ (r'.value column).rank

/-- the replies that a query may have, and what it leaves -/
inductive Answers (ps : List Cell) (v : View) : Query → Except Failure Reply → View → Prop
  | begin (n : ℕ) : Answers ps v .begin (.ok ⟨[], n⟩) v.opened
  | commit (n : ℕ) : Answers ps v .commit (.ok ⟨[], n⟩) v.closed
  | rollback (n : ℕ) : Answers ps v .rollback (.ok ⟨[], n⟩) v.dropped
  | one (reply : Reply) : Answers ps v .one (.ok reply) v
  /-- the rows that meet the conditions, in any order that the query allows -/
  | select {columns : List String} {table : String} {conditions : List (String × Operand)}
      {order : Option String} {t : Tables} {found : List Row} (micros : ℤ) (n : ℕ)
      (ht : v.tables? = some t)
      (hp : found.Perm ((t table).filter (meets ps (.timestamp micros) conditions)))
      (ho : Ordered order found) :
      Answers ps v (.select columns table conditions order)
        (.ok ⟨found.map (Row.project columns), n⟩) v
  | write {q : Query} {t : Tables} {table : String} {rows : List Row} {n : ℕ} (micros : ℤ)
      (ht : v.tables? = some t) (hw : q.written? ps (.timestamp micros) t = some (table, rows, n))
      (hr : (Schema.named table).violation rows = none) :
      Answers ps v q (.ok ⟨[], n⟩) (v.write table rows)
  | reject {q : Query} {t : Tables} {table state : String} {rows : List Row} {n : ℕ} (micros : ℤ)
      (message : String) (ht : v.tables? = some t)
      (hw : q.written? ps (.timestamp micros) t = some (table, rows, n))
      (hr : (Schema.named table).violation rows = some state) :
      Answers ps v q (.error (.rejected state message)) v.rejected
  | refuse {q : Query} (message : String) (ht : v.tables? = none) (hq : q.touchesRows = true) :
      Answers ps v q (.error (.rejected "25P02" message)) v

section Inversion

variable {ps : List Cell} {v v' : View} {reply : Except Failure Reply} {t : Tables}

theorem answers_begin (h : Answers ps v .begin reply v') :
    (∃ r, reply = .ok r) ∧ v' = v.opened := by
  cases h with
  | begin n => exact ⟨⟨_, rfl⟩, rfl⟩
  | write _ _ hw _ => cases hw
  | reject _ _ _ hw _ => cases hw
  | refuse _ _ hq => cases hq

theorem answers_commit (h : Answers ps v .commit reply v') :
    (∃ r, reply = .ok r) ∧ v' = v.closed := by
  cases h with
  | commit n => exact ⟨⟨_, rfl⟩, rfl⟩
  | write _ _ hw _ => cases hw
  | reject _ _ _ hw _ => cases hw
  | refuse _ _ hq => cases hq

theorem answers_rollback (h : Answers ps v .rollback reply v') : v' = v.dropped := by
  cases h with
  | rollback n => rfl
  | write _ _ hw _ => cases hw
  | reject _ _ _ hw _ => cases hw
  | refuse _ _ hq => cases hq

theorem answers_select {columns : List String} {table : String}
    {conditions : List (String × Operand)} {order : Option String} (ht : v.tables? = some t)
    (h : Answers ps v (.select columns table conditions order) reply v') :
    v' = v ∧ ∃ (micros : ℤ) (found : List Row) (n : ℕ),
      reply = .ok ⟨found.map (Row.project columns), n⟩ ∧
      found.Perm ((t table).filter (meets ps (.timestamp micros) conditions)) ∧
      Ordered order found := by
  cases h with
  | select micros n ht' hp ho =>
    cases ht.symm.trans ht'
    exact ⟨rfl, micros, _, n, rfl, hp, ho⟩
  | write _ _ hw _ => cases hw
  | reject _ _ _ hw _ => cases hw
  | refuse _ ht' _ => cases ht.symm.trans ht'

/-- A query that writes is carried out, or breaks a rule of its table. -/
theorem answers_write {q : Query} (ht : v.tables? = some t)
    (hq : ∀ time, ∃ w, q.written? ps time t = some w) (h : Answers ps v q reply v') :
    ∃ (micros : ℤ) (table : String) (rows : List Row) (n : ℕ),
      q.written? ps (.timestamp micros) t = some (table, rows, n) ∧
      (((Schema.named table).violation rows = none ∧ reply = .ok ⟨[], n⟩ ∧
          v' = v.write table rows) ∨
        ∃ state message, (Schema.named table).violation rows = some state ∧
          reply = .error (.rejected state message) ∧ v' = v.rejected) := by
  obtain ⟨w, hw⟩ := hq .null
  cases h with
  | begin _ => cases hw
  | commit _ => cases hw
  | rollback _ => cases hw
  | one _ => cases hw
  | select _ _ _ _ _ => cases hw
  | write micros ht' hw hr =>
    cases ht.symm.trans ht'
    exact ⟨micros, _, _, _, hw, Or.inl ⟨hr, rfl, rfl⟩⟩
  | reject micros message ht' hw hr =>
    cases ht.symm.trans ht'
    exact ⟨micros, _, _, _, hw, Or.inr ⟨_, message, hr, rfl, rfl⟩⟩
  | refuse _ ht' _ => cases ht.symm.trans ht'

/-- A statement whose query leaves rows that show a list: the rules of the table decide whether it
is carried out. -/
theorem answers_shown {s : Statement} {table : String} {n : ℕ} {α : Type} {columns : List String}
    {cells : α → Row} {xs : List α} (ht : v.tables? = some t)
    (hw : ∀ time, ∃ rows, s.query.written? s.params time t = some (table, rows, n) ∧
      Shown columns cells rows xs) (h : Answers s.params v s.query reply v') :
    ∃ rows, Shown columns cells rows xs ∧
      (((Schema.named table).violation rows = none ∧ reply = .ok ⟨[], n⟩ ∧
          v' = v.write table rows) ∨
        ∃ state message, (Schema.named table).violation rows = some state ∧
          reply = .error (.rejected state message) ∧ v' = v.rejected) := by
  obtain ⟨micros, table', rows, n', hw', hcase⟩ :=
    answers_write ht (fun time => ⟨_, (hw time).choose_spec.1⟩) h
  obtain ⟨rows', hwritten, hrows⟩ := hw (.timestamp micros)
  cases hw'.symm.trans hwritten
  exact ⟨rows, hrows, hcase⟩

end Inversion

/-! ### Sessions -/

/-- Whatever its statements are answered, the session ends with `post`. -/
def Ensures {α : Type} (post : α → View → Prop) : Session α → View → Prop
  | .done a, v => post a v
  | .remark _ rest, v => Ensures post rest v
  | .ask s next, v => ∀ reply v', Answers s.params v s.query reply v' → Ensures post (next reply) v'

section Sessions

variable {α β ε : Type} {post : α → View → Prop} {v : View}

theorem ensures_bind {post : β → View → Prop} (d : Session α) (f : α → Session β) (v : View) :
    Ensures post (d.bind f) v ↔ Ensures (fun a v' => Ensures post (f a) v') d v := by
  induction d generalizing v with
  | done a => rfl
  | remark r rest ih => exact ih v
  | ask s next ih => exact forall₃_congr fun reply v' _ => ih reply v'

theorem Ensures.imp {post' : α → View → Prop} {d : Session α} (h : Ensures post d v)
    (himp : ∀ a v', post a v' → post' a v') : Ensures post' d v := by
  induction d generalizing v with
  | done a => exact himp a v h
  | remark r rest ih => exact ih h
  | ask s next ih => exact fun reply v' hr => ih reply (h reply v' hr)

theorem ensures_execute {post : Except ε Reply → View → Prop} {s : Statement}
    {failed : Failure → ε} (h : ∀ reply v', Answers s.params v s.query reply v' →
      post (reply.mapError failed) v') : Ensures post (execute s failed) v := by
  intro reply v' hr
  have := h reply v' hr
  cases reply <;> exact this

/-- What a transaction leaves: the tables that its work leaves, or the tables from before. -/
theorem ensures_transaction {beginFailed commitFailed : Failure → ε}
    {work : Session (Except ε α)} {post : Except ε α → View → Prop} {t : Tables}
    (hv : v = ⟨t, .idle⟩)
    (h : Ensures (fun r v' =>
      match r with
      | .ok a => ∃ t', v' = ⟨t, .active t'⟩ ∧ post (.ok a) ⟨t', .idle⟩
      | .error e => v'.committed = t ∧ post (.error e) ⟨t, .idle⟩) work ⟨t, .active t⟩) :
    Ensures post (transaction beginFailed commitFailed work) v := by
  subst hv
  refine (ensures_bind _ _ _).mpr (ensures_execute fun reply v₁ hbegin => ?_)
  obtain ⟨⟨_, rfl⟩, rfl⟩ := answers_begin hbegin
  refine (ensures_bind _ _ _).mpr (h.imp fun r v₂ hwork => ?_)
  cases r with
  | error e =>
    intro reply v₃ hrollback
    rw [answers_rollback hrollback, View.dropped, hwork.1]
    exact hwork.2
  | ok a =>
    obtain ⟨t', rfl, hpost⟩ := hwork
    refine (ensures_bind _ _ _).mpr (ensures_execute fun reply v₃ hcommit => ?_)
    obtain ⟨⟨_, rfl⟩, rfl⟩ := answers_commit hcommit
    exact hpost

end Sessions

/-! ### Servers -/

/-- a database with a state of its own, and how the state shows -/
structure Server (σ : Type) where
  answer : Statement → σ → Except Failure Reply × σ
  view : σ → View

namespace Server

variable {σ α : Type} {db : Server σ} {post : α → View → Prop}

/-- Every answer is one that the text and the parameters of the statement allow. -/
def Faithful (db : Server σ) : Prop :=
  ∀ (s : Statement) (st : σ) (q : Query), Query.read? s.text = some q →
    Answers s.params (db.view st) q (db.answer s st).1 (db.view (db.answer s st).2)

/-- the result of a session with the server, and the server's state after it -/
def run (db : Server σ) (d : Session α) (st : σ) : α × σ := d.run db.answer (fun _ st => st) st

theorem Faithful.run (hf : db.Faithful) (d : Session α) {st : σ}
    (h : Ensures post d (db.view st)) : post (db.run d st).1 (db.view (db.run d st).2) := by
  unfold Server.run
  induction d generalizing st with
  | done a => exact h
  | remark r rest ih => exact ih h
  | ask s next ih => exact ih _ (h _ _ (hf s st s.query s.read?_text))

end Server

/-! ### A server -/

/-- the rows in the order of a column, where one is given -/
def sorted (order : Option String) (rows : List Row) : List Row :=
  match order with
  | none => rows
  | some column =>
    rows.insertionSort fun r r' => (r.value column).rank ≤ (r'.value column).rank

theorem sorted_perm (order : Option String) (rows : List Row) :
    (sorted order rows).Perm rows := by
  cases order with
  | none => exact .refl _
  | some column => exact rows.perm_insertionSort _

theorem sorted_ordered (order : Option String) (rows : List Row) :
    Ordered order (sorted order rows) := by
  intro column hc
  cases hc
  have : Std.Total fun r r' : Row => (r.value column).rank ≤ (r'.value column).rank :=
    ⟨fun r r' => le_total _ _⟩
  have : IsTrans Row fun r r' => (r.value column).rank ≤ (r'.value column).rank :=
    ⟨fun _ _ _ => le_trans⟩
  exact rows.pairwise_insertionSort _

/-- the answer to a query that would leave a table with these rows, `n` of them written -/
def carryOut (table : String) (rows : List Row) (n : ℕ) (v : View) :
    Except Failure Reply × View :=
  match (Schema.named table).violation rows with
  | none => (.ok ⟨[], n⟩, v.write table rows)
  | some state => (.error (.rejected state "constraint violated"), v.rejected)

/-- the answer to a query in a transaction that begins at `time` -/
def perform (ps : List Cell) (time : Cell) (q : Query) (v : View) :
    Except Failure Reply × View :=
  match q, v.tables? with
  | .begin, _ => (.ok {}, v.opened)
  | .commit, _ => (.ok {}, v.closed)
  | .rollback, _ => (.ok {}, v.dropped)
  | .one, _ => (.ok {}, v)
  | .select .., none | .insert .., none | .update .., none =>
    (.error (.rejected "25P02" "current transaction is aborted"), v)
  | .select columns table conditions order, some t =>
    let found := sorted order ((t table).filter (meets ps time conditions))
    (.ok ⟨found.map (Row.project columns), found.length⟩, v)
  | q, some t =>
    match q.written? ps time t with
    | none => (.ok {}, v)
    | some (table, rows, n) => carryOut table rows n v

section Engine

variable {ps : List Cell} {micros : ℤ} {q : Query} {v : View} {t : Tables}

theorem answers_carryOut {table : String} {rows : List Row} {n : ℕ} (ht : v.tables? = some t)
    (hw : q.written? ps (.timestamp micros) t = some (table, rows, n)) :
    Answers ps v q (carryOut table rows n v).1 (carryOut table rows n v).2 := by
  unfold carryOut
  cases hr : (Schema.named table).violation rows with
  | none => exact .write micros ht hw hr
  | some state => exact .reject micros _ ht hw hr

theorem answers_perform (ps : List Cell) (micros : ℤ) (q : Query) (v : View) :
    Answers ps v q (perform ps (.timestamp micros) q v).1
      (perform ps (.timestamp micros) q v).2 := by
  cases q with
  | begin => exact .begin 1
  | commit => exact .commit 1
  | rollback => exact .rollback 1
  | one => exact .one {}
  | select columns table conditions order =>
    unfold perform
    cases ht : v.tables? with
    | none => exact .refuse _ ht rfl
    | some t => exact .select micros _ ht (sorted_perm order _) (sorted_ordered order _)
  | insert table columns values =>
    unfold perform
    cases ht : v.tables? with
    | none => exact .refuse _ ht rfl
    | some t => exact answers_carryOut ht rfl
  | update table assignments conditions =>
    unfold perform
    cases ht : v.tables? with
    | none => exact .refuse _ ht rfl
    | some t => exact answers_carryOut ht rfl

end Engine

/-- a server in memory, at the beginning of 1970 -/
def engine : Server View where
  answer s v := perform s.params (.timestamp 0) s.query v
  view := id

/-- an empty database -/
def noRows : View := ⟨fun _ => [], .idle⟩

/-- **There is a server that answers as the texts of the statements say.** -/
theorem engine_faithful : engine.Faithful := by
  intro s v q hq
  obtain rfl : s.query = q := Option.some.inj (s.read?_text.symm.trans hq)
  exact answers_perform s.params 0 s.query v

end FabricRegistry.Database
