import FabricRegistry.Proofs.Traffic.Line
import FabricRegistry.Proofs.Traffic.Progress

/-!
The course of a schedule: what happens in it, told by stages and decisions instead of by the work
that is left. Every schedule has a course (`exists_course`), in which each client is at a stage
that fits its work and is sound for the table, and the decisions are in a line, in the order in
which they were reached. A prefix of the schedule has a prefix of the line.

A command is decided by the request that changes the table or that settles its failure, or when it
is given, if its failure needs no look at the table.
-/

namespace FabricRegistry.Traffic

open Command (effect)

/-- a command that was given, and where it stands -/
structure Post where
  job : Job
  stage : Stage

/-- the line, with a verdict at its end if there is one -/
def decided (line : List Decision) (k : ℕ) (job : Job) (verdict : Option Verdict) :
    List Decision :=
  line ++ (verdict.map fun v => ⟨k, job, v⟩).toList

/-- Each client stands at its post, which is sound for the table. -/
structure Mirrors (channel : Channel) (s : State) (posts : List Post) : Prop where
  length_eq : s.clients.length = posts.length
  stands : ∀ (k : ℕ) (c : Client) (p : Post), s.clients[k]? = some c → posts[k]? = some p →
    c.job = p.job ∧ Stands channel p.job p.stage c.work ∧ p.stage.Sound s.stores.table

/-- The course of a schedule: the posts of the clients at its end, and the decisions in the order
in which they were reached. -/
inductive Course (channel : Channel) : List Action → List Post → List Decision → Prop where
  | nil : Course channel [] [] []
  | starts {σ posts line job st verdict} (h : Course channel σ posts line)
      (ho : Opens job st verdict)
      (hm : Mirrors channel (run channel (σ ++ [.start job])) (posts ++ [⟨job, st⟩])) :
      Course channel (σ ++ [.start job]) (posts ++ [⟨job, st⟩])
        (decided line posts.length job verdict)
  | moves {σ posts line k timing job st st' verdict} (h : Course channel σ posts line)
      (hk : posts[k]? = some ⟨job, st⟩)
      (hp : Progress channel job (run channel σ).stores st st'
        (run channel (σ ++ [.move k timing])).stores verdict)
      (hm : Mirrors channel (run channel (σ ++ [.move k timing])) (posts.set k ⟨job, st'⟩)) :
      Course channel (σ ++ [.move k timing]) (posts.set k ⟨job, st'⟩) (decided line k job verdict)
  /-- an action of a client that is not there -/
  | stays {σ posts line k timing} (h : Course channel σ posts line)
      (hrun : run channel (σ ++ [.move k timing]) = run channel σ) :
      Course channel (σ ++ [.move k timing]) posts line

variable {channel : Channel} {job : Job} {s s' : Stores} {st st' : Stage} {line : List Decision}
  {posts : List Post} {σ : List Action} {verdict : Option Verdict}

/-! ### Steps -/

/-- Only a verdict changes the table. -/
theorem Progress.table_eq (h : Progress channel job s st st' s' verdict) :
    s'.table = verdict.elim s.table s.table.settle := by
  cases h <;> rfl

/-- A verdict is the effect of the command. -/
theorem Progress.verdict_eq {v : Verdict} (h : Progress channel job s st st' s' (some v)) :
    v = effect s.table job.command := by
  cases h with
  | fails _ h => exact h.symm
  | writes _ h => exact h.symm
  | writesUnheard _ _ h _ => exact h.symm

@[simp] theorem decided_none (line : List Decision) (k : ℕ) (job : Job) :
    decided line k job none = line := by
  simp [decided]

@[simp] theorem decided_some (line : List Decision) (k : ℕ) (job : Job) (v : Verdict) :
    decided line k job (some v) = line ++ [⟨k, job, v⟩] := rfl

theorem mem_decided {k : ℕ} {d : Decision} : d ∈ decided line k job verdict ↔
    d ∈ line ∨ ∃ v, verdict = some v ∧ d = ⟨k, job, v⟩ := by
  cases verdict <;> simp [decided]

theorem prefix_decided (line : List Decision) (k : ℕ) (job : Job) (verdict : Option Verdict) :
    line <+: decided line k job verdict := List.prefix_append _ _

theorem tableOf_decided (line : List Decision) (k : ℕ) (job : Job) (verdict : Option Verdict) :
    tableOf (decided line k job verdict) =
      verdict.elim (tableOf line) (tableOf line).settle := by
  cases verdict <;> simp

/-- What is sound for a table is sound after a command is decided: rows that change get later
versions. -/
theorem Stage.Sound.settle {t : Catalogue.Table} (h : st.Sound t) (c : Command) :
    st.Sound (t.settle (effect t c)) := by
  have grows {code : Code} {row : Fabric} (hr : t.find? code = some row) :
      ∃ row', (t.settle (effect t c)).find? code = some row' ∧
        (row' = row ∨ row.version < row'.version) := by
    cases he : effect t c with
    | error e => exact ⟨row, hr, Or.inl rfl⟩
    | ok f =>
      have hversion := Command.version_of_effect he
      rw [Catalogue.Table.settle_ok, Catalogue.Table.find?_put]
      split
      · next hcode =>
        refine ⟨_, rfl, Or.inr ?_⟩
        rw [Fabric.settled_code] at hcode
        rw [hcode, Catalogue.Table.versionOf_of_find? hr] at hversion
        rw [Fabric.settled_version, hversion]
        exact Nat.lt_succ_self _
      · exact ⟨row, hr, Or.inl rfl⟩
  cases st with
  | writing current f =>
    obtain ⟨row, hr, hrow⟩ := h
    obtain ⟨row', hr', hrow'⟩ := grows hr
    refine ⟨row', hr', ?_⟩
    rcases hrow' with rfl | hlt
    · exact hrow
    · rcases hrow with rfl | hlt'
      · exact Or.inr hlt
      · exact Or.inr (hlt'.trans hlt)
  | reloading code expected =>
    obtain ⟨row, hr, hlt⟩ := h
    obtain ⟨row', hr', hrow'⟩ := grows hr
    refine ⟨row', hr', ?_⟩
    rcases hrow' with rfl | hlt'
    · exact hlt
    · exact hlt.trans hlt'
  | saving _ => trivial
  | loading _ => trivial
  | recording _ => trivial
  | ended _ _ => trivial

/-! ### What holds in every course -/

/-- A client has a post. -/
theorem Mirrors.exists_post {s : State} (hm : Mirrors channel s posts) {k : ℕ} {c : Client}
    (hc : s.clients[k]? = some c) : ∃ p, posts[k]? = some p := by
  obtain ⟨hlt, -⟩ := List.getElem?_eq_some_iff.mp hc
  rw [hm.length_eq] at hlt
  exact ⟨posts[k], List.getElem?_eq_getElem hlt⟩

namespace Course

theorem mirrors (h : Course channel σ posts line) : Mirrors channel (run channel σ) posts := by
  induction h with
  | nil => exact ⟨rfl, by simp⟩
  | starts _ _ hm _ => exact hm
  | moves _ _ _ hm _ => exact hm
  | stays _ hrun ih => rwa [hrun]

/-- A client stands at its post. -/
theorem exists_post (h : Course channel σ posts line) {k : ℕ} {c : Client}
    (hc : (run channel σ).clients[k]? = some c) :
    ∃ st, posts[k]? = some ⟨c.job, st⟩ ∧ Stands channel c.job st c.work := by
  obtain ⟨⟨job, st⟩, hp⟩ := h.mirrors.exists_post hc
  obtain ⟨hjob, hst, -⟩ := h.mirrors.stands k c _ hc hp
  obtain rfl : c.job = job := hjob
  exact ⟨st, hp, hst⟩

/-- The table is the one that the decisions leave. -/
theorem table_eq (h : Course channel σ posts line) :
    (run channel σ).stores.table = tableOf line := by
  induction h with
  | nil => rfl
  | @starts σ posts line job st verdict h ho hm ih =>
    rw [run_append_singleton]
    show (run channel σ).stores.table = _
    cases ho with
    | waits _ _ => simpa using ih
    | fails _ => simpa using ih
  | moves h hk hp hm ih => rw [hp.table_eq, tableOf_decided, ih]
  | stays h hrun ih => rw [hrun, ih]

/-- **The decisions are in a line.** -/
theorem inLine (h : Course channel σ posts line) : InLine line := by
  induction h with
  | nil => exact .nil
  | starts h ho hm ih =>
    cases ho with
    | waits _ _ => simpa using ih
    | fails he => exact .snoc ih (he _).symm
  | @moves _ _ _ _ _ _ _ _ verdict h hk hp hm ih =>
    cases verdict with
    | none => simpa using ih
    | some v => exact .snoc ih (h.table_eq ▸ hp.verdict_eq)
  | stays h hrun ih => exact ih

theorem tidy (h : Course channel σ posts line) : (run channel σ).stores.table.Tidy := by
  rw [h.table_eq]
  exact h.inLine.tidy

/-- A schedule without its last action has a course with a prefix of the line. -/
theorem dropLast {a : Action} (h : Course channel (σ ++ [a]) posts line) :
    ∃ posts' line', Course channel σ posts' line' ∧ line' <+: line := by
  generalize hτ : σ ++ [a] = τ at h
  cases h with
  | nil => simp at hτ
  | starts h _ _ =>
    obtain ⟨rfl, -⟩ := List.append_inj' hτ rfl
    exact ⟨_, _, h, prefix_decided _ _ _ _⟩
  | moves h _ _ _ =>
    obtain ⟨rfl, -⟩ := List.append_inj' hτ rfl
    exact ⟨_, _, h, prefix_decided _ _ _ _⟩
  | stays h _ =>
    obtain ⟨rfl, -⟩ := List.append_inj' hτ rfl
    exact ⟨_, _, h, List.prefix_rfl⟩

/-- A prefix of a schedule has a course with a prefix of the line. -/
theorem of_append {τ : List Action} (h : Course channel (σ ++ τ) posts line) :
    ∃ posts' line', Course channel σ posts' line' ∧ line' <+: line := by
  induction τ using List.reverseRecOn generalizing posts line with
  | nil => exact ⟨posts, line, by simpa using h, List.prefix_rfl⟩
  | append_singleton τ a ih =>
    rw [← List.append_assoc] at h
    obtain ⟨posts₁, line₁, h₁, hprefix₁⟩ := h.dropLast
    obtain ⟨posts₂, line₂, h₂, hprefix₂⟩ := ih h₁
    exact ⟨posts₂, line₂, h₂, hprefix₂.trans hprefix₁⟩

end Course

/-- **Every schedule has a course.** -/
theorem exists_course (channel : Channel) (σ : List Action) :
    ∃ posts line, Course channel σ posts line := by
  induction σ using List.reverseRecOn with
  | nil => exact ⟨[], [], .nil⟩
  | append_singleton σ a ih =>
    obtain ⟨posts, line, h⟩ := ih
    have hm := h.mirrors
    cases a with
    | start job =>
      obtain ⟨st, verdict, ho, hst⟩ := exists_opens channel job
      refine ⟨_, _, .starts h ho ?_⟩
      rw [run_append_singleton]
      refine ⟨by simp [State.step, hm.length_eq], ?_⟩
      intro k c p hc hp
      simp only [State.step, List.getElem?_append, List.getElem?_singleton] at hc hp
      rw [hm.length_eq] at hc
      split at hc
      · next hlt =>
        rw [if_pos hlt] at hp
        exact hm.stands k c p hc hp
      · next hge =>
        rw [if_neg hge] at hp
        obtain ⟨-, ⟨⟩⟩ := Option.ite_none_right_eq_some.mp hc
        obtain ⟨-, ⟨⟩⟩ := Option.ite_none_right_eq_some.mp hp
        refine ⟨rfl, hst, ?_⟩
        cases ho with
        | waits _ hs => exact hs _
        | fails _ => trivial
    | move k timing =>
      cases hc : (run channel σ).clients[k]? with
      | none => exact ⟨posts, line, .stays h (by simp [run_append_singleton, State.step, hc])⟩
      | some c =>
        obtain ⟨⟨job, st⟩, hp⟩ := hm.exists_post hc
        obtain ⟨hjob, hst, hs⟩ := hm.stands k c _ hc hp
        obtain ⟨st', verdict, hst', hs', hprogress⟩ :=
          progress timing hst hs h.tidy
        have hrun : run channel (σ ++ [.move k timing]) =
            ⟨(advance channel timing c.work (run channel σ).stores).2, (run channel σ).clients.set k
              ⟨c.job, (advance channel timing c.work (run channel σ).stores).1⟩⟩ := by
          simp [run_append_singleton, State.step, hc]
        refine ⟨posts.set k ⟨job, st'⟩, decided line k job verdict,
          .moves h hp (by rw [hrun]; exact hprogress) ?_⟩
        rw [hrun]
        refine ⟨by simp [hm.length_eq], ?_⟩
        intro j d p hd hp'
        by_cases hj : k = j
        · -- the client that moved
          subst hj
          rw [List.getElem?_set_self (List.getElem?_eq_some_iff.mp hc).1] at hd
          rw [List.getElem?_set_self (List.getElem?_eq_some_iff.mp hp).1] at hp'
          cases hd
          cases hp'
          exact ⟨hjob, hst', hs'⟩
        · -- all others
          rw [List.getElem?_set_ne hj] at hd hp'
          obtain ⟨hjob', hst'', hs''⟩ := hm.stands j d p hd hp'
          refine ⟨hjob', hst'', ?_⟩
          have htable := hprogress.table_eq
          cases verdict with
          | none => exact htable ▸ hs''
          | some v =>
            have heff := hprogress.verdict_eq
            rw [Option.elim_some, heff] at htable
            show p.stage.Sound (advance channel timing c.work (run channel σ).stores).2.table
            rw [htable]
            exact hs''.settle _

end FabricRegistry.Traffic
