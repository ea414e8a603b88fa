import FabricRegistry.Proofs.Traffic.Course
import Mathlib.Data.List.Pairwise

/-!
What the ledger owes to the line. Each decision that writes leaves one envelope, and the account of
a course says where each one is: in the ledger, or with a command that is about to record it, or
with one that a deadline cut off. No key is taken twice, and every recorded envelope comes from a
decision.

The account is kept by every action, one lemma for each kind of change (`Account.start`,
`Account.wait`, `Account.decide`, `Account.follow`, `Account.record`), so every course has one
(`Course.account`).
-/

namespace FabricRegistry.Traffic

open Command (effect)

/-- Where a command stands after its decision, and what the ledger has of it. -/
inductive Fate (ledger : Trail.Ledger) (d : Decision) : Stage → Prop where
  | failed {e} (h : d.verdict = .error e) : Fate ledger d (.ended (.error e) [])
  /-- the envelope is not recorded yet -/
  | recording {f} (h : d.verdict = .ok f) (hfree : ∀ e ∈ d.batch, e.key ∉ ledger.keys) :
      Fate ledger d (.recording f)
  | recorded {f rest} (h : d.verdict = .ok f) (hin : ∀ e ∈ d.batch, e ∈ ledger.events) :
      Fate ledger d (.ended (.ok ⟨f.settled, d.job.batch f⟩) rest)
  /-- a deadline cut the recording off -/
  | unheard {f reason} (h : d.verdict = .ok f) (hd : d.job.invocation.deadline ≠ none) :
      Fate ledger d (.ended (.error (.eventsNotRecorded f.code f.version reason false)) [])
  /-- a deadline cut the write off, after it took effect -/
  | cutOff {f} {step : Step} (h : d.verdict = .ok f) (hd : d.job.invocation.deadline ≠ none)
      (hs : step = .save ∨ step = .update ∨ step = .delete) :
      Fate ledger d (.ended (.error (.deadlineExceeded step.text)) [])

/-- Where a command without a decision stands. -/
def Pending (job : Job) (st : Stage) : Prop :=
  st.Undecided ∨ (job.invocation.deadline ≠ none ∧
    ∃ step : Step, st = .ended (.error (.deadlineExceeded step.text)) [])

/-- **The account of the envelopes.** -/
structure Account (posts : List Post) (line : List Decision) (ledger : Trail.Ledger) : Prop where
  /-- a command is decided once -/
  clients_nodup : (line.map Decision.client).Nodup
  fate : ∀ d ∈ line, ∃ st, posts[d.client]? = some ⟨d.job, st⟩ ∧ Fate ledger d st
  pending : ∀ (k : ℕ) (p : Post), posts[k]? = some p → k ∉ line.map Decision.client →
    Pending p.job p.stage
  keys_eq : ledger.keys = ledger.events.map Envelope.key
  keys_nodup : ledger.keys.Nodup
  /-- every envelope comes from a decision -/
  origin : ∀ e ∈ ledger.events, ∃ d ∈ line, e ∈ d.batch

variable {channel : Channel} {σ : List Action} {posts : List Post} {line : List Decision}
  {ledger : Trail.Ledger} {job : Job} {st st' : Stage} {k : ℕ} {d : Decision} {e : Envelope}

/-! ### Decisions and keys -/

/-- No two decisions leave envelopes of one key. -/
theorem InLine.key_ne (h : InLine line) {a b : Decision} (ha : a ∈ line) (hb : b ∈ line)
    (hab : a ≠ b) {x y : Envelope} (hx : x ∈ a.batch) (hy : y ∈ b.batch) : x.key ≠ y.key := by
  have hne : line.Pairwise fun a b => ∀ x ∈ a.batch, ∀ y ∈ b.batch, x.key ≠ y.key := by
    refine (List.pairwise_flatMap.mp h.envelopes_ascending).2.imp ?_
    intro a b hlt x hx y hy heq
    obtain ⟨hid, hversion⟩ := Prod.mk.inj heq
    exact absurd hversion (hlt x hx y hy hid).ne
  have hsymm : Std.Symm fun a b : Decision => ∀ x ∈ a.batch, ∀ y ∈ b.batch, x.key ≠ y.key :=
    ⟨fun a b h x hx y hy heq => h y hy x hx heq.symm⟩
  exact hne.forall ha hb hab x hx y hy

theorem Fate.not_undecided (h : Fate ledger d st) : ¬ st.Undecided := by
  cases h <;> exact Nat.not_lt_zero 0

/-- An envelope of another key does not change the fate of a decision. -/
theorem Fate.append (h : Fate ledger d st) (hne : ∀ x ∈ d.batch, x.key ≠ e.key) :
    Fate ⟨ledger.events ++ [e], ledger.keys ++ [e.key]⟩ d st := by
  cases h with
  | failed h => exact .failed h
  | recording h hfree =>
    refine .recording h fun x hx hmem => ?_
    rcases List.mem_append.mp hmem with hmem | hmem
    · exact hfree x hx hmem
    · exact hne x hx (List.mem_singleton.mp hmem)
  | recorded h hin => exact .recorded h fun x hx => List.mem_append_left _ (hin x hx)
  | unheard h hd => exact .unheard h hd
  | cutOff h hd hs => exact .cutOff h hd hs

namespace Account

theorem client_lt (ha : Account posts line ledger) (hd : d ∈ line) : d.client < posts.length := by
  obtain ⟨st, hst, -⟩ := ha.fate d hd
  exact (List.getElem?_eq_some_iff.mp hst).1

theorem mem_envelopesOf (ha : Account posts line ledger) (he : e ∈ ledger.events) :
    e ∈ envelopesOf line := by
  obtain ⟨d, hd, hbatch⟩ := ha.origin e he
  exact List.mem_flatMap.mpr ⟨d, hd, hbatch⟩

/-- A command whose stage is not that of a pending one has a decision. -/
theorem exists_decision (ha : Account posts line ledger) (hk : posts[k]? = some ⟨job, st⟩)
    (hst : ¬ Pending job st) : ∃ d ∈ line, d.client = k ∧ d.job = job ∧ Fate ledger d st := by
  have hmem : k ∈ line.map Decision.client := by
    by_contra hk'
    exact hst (ha.pending k _ hk hk')
  obtain ⟨d, hd, rfl⟩ := List.mem_map.mp hmem
  obtain ⟨st', hst', hfate⟩ := ha.fate d hd
  rw [hk] at hst'
  cases hst'
  exact ⟨d, hd, rfl, rfl, hfate⟩

theorem not_mem_of_undecided (ha : Account posts line ledger) (hk : posts[k]? = some ⟨job, st⟩)
    (hu : st.Undecided) : k ∉ line.map Decision.client := by
  intro hmem
  obtain ⟨d, hd, rfl⟩ := List.mem_map.mp hmem
  obtain ⟨st', hst', hfate⟩ := ha.fate d hd
  rw [hk] at hst'
  cases hst'
  exact hfate.not_undecided hu

/-! ### What an action changes -/

/-- A command that is given. -/
theorem start {verdict : Option Verdict} (ha : Account posts line ledger)
    (ho : Opens job st verdict) :
    Account (posts ++ [⟨job, st⟩]) (decided line posts.length job verdict) ledger := by
  have hnew : (posts ++ [⟨job, st⟩])[posts.length]? = some ⟨job, st⟩ := by simp
  have hfresh : posts.length ∉ line.map Decision.client := by
    intro hmem
    obtain ⟨d, hd, hlen⟩ := List.mem_map.mp hmem
    exact absurd (ha.client_lt hd) (by omega)
  have hold : ∀ d ∈ line, ∃ st', (posts ++ [⟨job, st⟩])[d.client]? = some ⟨d.job, st'⟩ ∧
      Fate ledger d st' := by
    intro d hd
    obtain ⟨st', hst', hfate⟩ := ha.fate d hd
    exact ⟨st', by rw [List.getElem?_append_left (ha.client_lt hd), hst'], hfate⟩
  have hpending : ∀ (k : ℕ) (p : Post), (posts ++ [⟨job, st⟩])[k]? = some p →
      k ∉ line.map Decision.client → k ≠ posts.length → Pending p.job p.stage := by
    intro k p hp hk hne
    obtain ⟨hlt, -⟩ := List.getElem?_eq_some_iff.mp hp
    rw [List.length_append, List.length_singleton] at hlt
    rw [List.getElem?_append_left (by omega)] at hp
    exact ha.pending k p hp hk
  cases ho with
  | waits hu _ =>
    rw [decided_none]
    refine ⟨ha.clients_nodup, hold, ?_, ha.keys_eq, ha.keys_nodup, ha.origin⟩
    intro k p hp hk
    by_cases hlen : k = posts.length
    · subst hlen
      rw [hnew] at hp
      cases hp
      exact Or.inl hu
    · exact hpending k p hp hk hlen
  | fails he =>
    refine ⟨?_, ?_, ?_, ha.keys_eq, ha.keys_nodup, ?_⟩
    · rw [decided_some, List.map_append]
      exact ha.clients_nodup.append (List.nodup_singleton _) (by simpa using hfresh)
    · intro d hd
      rcases List.mem_append.mp hd with hd | hd
      · exact hold d hd
      · obtain rfl := List.mem_singleton.mp hd
        exact ⟨_, hnew, .failed rfl⟩
    · intro k p hp hk
      rw [decided_some, List.map_append, List.mem_append, not_or] at hk
      exact hpending k p hp hk.1 (by simpa using hk.2)
    · intro e he
      obtain ⟨d, hd, hbatch⟩ := ha.origin e he
      exact ⟨d, List.mem_append_left _ hd, hbatch⟩

/-- A command that stays without a decision. -/
theorem wait (ha : Account posts line ledger) (hk : posts[k]? = some ⟨job, st⟩)
    (hu : st.Undecided) (hst : Pending job st') :
    Account (posts.set k ⟨job, st'⟩) line ledger := by
  have hnot := ha.not_mem_of_undecided hk hu
  refine ⟨ha.clients_nodup, ?_, ?_, ha.keys_eq, ha.keys_nodup, ha.origin⟩
  · intro d hd
    have hne : k ≠ d.client := fun h => hnot (h ▸ List.mem_map_of_mem hd)
    rw [List.getElem?_set_ne hne]
    exact ha.fate d hd
  · intro j p hp hj
    by_cases hkj : k = j
    · subst hkj
      rw [List.getElem?_set_self (List.getElem?_eq_some_iff.mp hk).1] at hp
      cases hp
      exact hst
    · rw [List.getElem?_set_ne hkj] at hp
      exact ha.pending j p hp hj

/-- A command that is decided. -/
theorem decide {v : Verdict} (ha : Account posts line ledger) (hk : posts[k]? = some ⟨job, st⟩)
    (hu : st.Undecided) (hfate : Fate ledger ⟨k, job, v⟩ st') :
    Account (posts.set k ⟨job, st'⟩) (line ++ [⟨k, job, v⟩]) ledger := by
  have hnot := ha.not_mem_of_undecided hk hu
  refine ⟨?_, ?_, ?_, ha.keys_eq, ha.keys_nodup, ?_⟩
  · rw [List.map_append]
    exact ha.clients_nodup.append (List.nodup_singleton _) (by simpa using hnot)
  · intro d hd
    rcases List.mem_append.mp hd with hd | hd
    · have hne : k ≠ d.client := fun h => hnot (h ▸ List.mem_map_of_mem hd)
      rw [List.getElem?_set_ne hne]
      exact ha.fate d hd
    · obtain rfl := List.mem_singleton.mp hd
      exact ⟨st', List.getElem?_set_self (List.getElem?_eq_some_iff.mp hk).1, hfate⟩
  · intro j p hp hj
    rw [List.map_append, List.mem_append, not_or] at hj
    have hkj : k ≠ j := fun h => hj.2 (by simp [h])
    rw [List.getElem?_set_ne hkj] at hp
    exact ha.pending j p hp hj.1
  · intro e he
    obtain ⟨d, hd, hbatch⟩ := ha.origin e he
    exact ⟨d, List.mem_append_left _ hd, hbatch⟩

theorem fate_set (ha : Account posts line ledger) (hd : d ∈ line)
    (hfate : Fate ledger d st') {c : Decision} (hc : c ∈ line) :
    ∃ st, (posts.set d.client ⟨d.job, st'⟩)[c.client]? = some ⟨c.job, st⟩ ∧ Fate ledger c st := by
  by_cases hcd : d.client = c.client
  · obtain rfl : d = c := List.inj_on_of_nodup_map ha.clients_nodup hd hc hcd
    exact ⟨st', List.getElem?_set_self (ha.client_lt hd), hfate⟩
  · rw [List.getElem?_set_ne hcd]
    exact ha.fate c hc

/-- A decided command that goes on. -/
theorem follow (ha : Account posts line ledger) (hd : d ∈ line) (hfate : Fate ledger d st') :
    Account (posts.set d.client ⟨d.job, st'⟩) line ledger := by
  refine ⟨ha.clients_nodup, fun c hc => ha.fate_set hd hfate hc, ?_, ha.keys_eq, ha.keys_nodup,
    ha.origin⟩
  intro j p hp hj
  have hne : d.client ≠ j := fun h => hj (h ▸ List.mem_map_of_mem hd)
  rw [List.getElem?_set_ne hne] at hp
  exact ha.pending j p hp hj

/-- An envelope that is recorded. -/
theorem record (ha : Account posts line ledger) (hl : InLine line) (hd : d ∈ line)
    (hbatch : d.batch = [e]) (hfree : e.key ∉ ledger.keys)
    (hfate : Fate ⟨ledger.events ++ [e], ledger.keys ++ [e.key]⟩ d st') :
    Account (posts.set d.client ⟨d.job, st'⟩) line
      ⟨ledger.events ++ [e], ledger.keys ++ [e.key]⟩ := by
  refine ⟨ha.clients_nodup, ?_, ?_, ?_, ?_, ?_⟩
  · intro c hc
    by_cases hcd : c = d
    · subst hcd
      exact ⟨st', List.getElem?_set_self (ha.client_lt hc), hfate⟩
    · have hne : d.client ≠ c.client := fun h =>
        hcd (List.inj_on_of_nodup_map ha.clients_nodup hc hd h.symm)
      obtain ⟨st, hst, hc'⟩ := ha.fate c hc
      rw [List.getElem?_set_ne hne]
      exact ⟨st, hst, hc'.append fun x hx => hl.key_ne hc hd hcd hx (by simp [hbatch])⟩
  · intro j p hp hj
    have hne : d.client ≠ j := fun h => hj (h ▸ List.mem_map_of_mem hd)
    rw [List.getElem?_set_ne hne] at hp
    exact ha.pending j p hp hj
  · simp [ha.keys_eq]
  · exact ha.keys_nodup.append (List.nodup_singleton _) (by simpa using hfree)
  · intro x hx
    rcases List.mem_append.mp hx with hx | hx
    · exact ha.origin x hx
    · exact ⟨d, hd, by rw [hbatch]; exact hx⟩

end Account

theorem Account.key_free (ha : Account posts line ledger) (hl : InLine (line ++ [d]))
    (hd : d ∉ line) (he : e ∈ d.batch) : e.key ∉ ledger.keys := by
  intro hmem
  rw [ha.keys_eq] at hmem
  obtain ⟨x, hx, hkey⟩ := List.mem_map.mp hmem
  obtain ⟨c, hc, hbatch⟩ := ha.origin x hx
  have hne : c ≠ d := fun h => hd (h ▸ hc)
  exact hl.key_ne (List.mem_append_left _ hc) (by simp) hne hbatch he hkey

/-- **The ledger takes the envelope of a command that is about to record it.** -/
theorem Account.append_recording {f : Fabric} (ha : Account posts line ledger) (hl : InLine line)
    (hk : posts[k]? = some ⟨job, .recording f⟩) :
    ∃ d ∈ line, d.client = k ∧ d.job = job ∧ d.verdict = .ok f ∧ ∃ e, d.batch = [e] ∧
      job.batch f = [e] ∧ e.key ∉ ledger.keys ∧
      ledger.append (job.batch f) = (.ok (), ⟨ledger.events ++ [e], ledger.keys ++ [e.key]⟩) := by
  have hst : ¬ Pending job (.recording f) := by
    rintro (hu | ⟨-, step, heq⟩)
    · exact Nat.not_lt_zero 0 hu
    · cases heq
  obtain ⟨d, hd, rfl, rfl, hfate⟩ := ha.exists_decision hk hst
  cases hfate with
  | recording hf hfree =>
    obtain ⟨x, -, -, -, hbatch⟩ := hl.batch_of_mem hd hf
    have hjob : d.job.batch f = d.batch := by simp [Decision.batch, hf]
    rw [hjob, hbatch]
    have hkey := hfree _ (by rw [hbatch]; exact List.mem_singleton_self _)
    exact ⟨d, hd, rfl, rfl, hf, _, hbatch, rfl, hkey,
      Trail.Ledger.append_of_fresh (Envelope.validate_ofFact _ _ _) hkey⟩

/-- The command goes on when its envelope is recorded. -/
theorem Account.recorded {s : Stores} {f : Fabric} (ha : Account posts line s.ledger)
    (hl : InLine line) (hk : posts[k]? = some ⟨job, .recording f⟩)
    (hst : ∀ d : Decision, d.job = job → d.verdict = .ok f →
      (∀ e ∈ d.batch, e ∈ (s.record (job.batch f)).ledger.events) →
      Fate (s.record (job.batch f)).ledger d st') :
    Account (posts.set k ⟨job, st'⟩) line (s.record (job.batch f)).ledger := by
  obtain ⟨d, hd, rfl, rfl, hf, e, hbatch, hjob, hfree, happend⟩ := ha.append_recording hl hk
  have hledger : (s.record (d.job.batch f)).ledger =
      ⟨s.ledger.events ++ [e], s.ledger.keys ++ [e.key]⟩ := by
    simp only [Stores.record, happend]
  rw [hledger] at hst ⊢
  exact ha.record hl hd hbatch hfree (hst d rfl hf (by simp [hbatch]))

/-- **The account is kept by progress.** -/
theorem Account.progress {s s' : Stores} {verdict : Option Verdict}
    (ha : Account posts line s.ledger) (hl : InLine line) (hk : posts[k]? = some ⟨job, st⟩)
    (hp : Progress channel job s st st' s' verdict)
    (hl' : InLine (decided line k job verdict)) :
    Account (posts.set k ⟨job, st'⟩) (decided line k job verdict) s'.ledger := by
  cases hp with
  | waits hlt hu =>
    rw [decided_none]
    exact ha.wait hk (hu.trans hlt) (Or.inl hu)
  | fails hu h => exact ha.decide hk hu (.failed rfl)
  | writes hu h =>
    refine ha.decide hk hu (.recording rfl ?_)
    intro e he
    refine ha.key_free hl' ?_ he
    exact fun hd => ha.not_mem_of_undecided hk hu (List.mem_map_of_mem hd)
  | givesUp step hu hd =>
    rw [decided_none]
    exact ha.wait hk hu (Or.inr ⟨hd, step, rfl⟩)
  | writesUnheard hu hd h hs => exact ha.decide hk hu (.cutOff rfl hd hs)
  | records h =>
    rw [decided_none]
    refine ha.recorded hl hk ?_
    rintro d rfl hf hin
    exact .recorded hf hin
  | rejected h =>
    obtain ⟨d, hd, rfl, rfl, hf, e, hbatch, hjob, hfree, happend⟩ := ha.append_recording hl hk
    rw [happend] at h
    cases h
  | givesUpRecording hdeadline =>
    obtain ⟨d, hd, rfl, rfl, hf, -⟩ := ha.append_recording hl hk
    rw [decided_none]
    exact ha.follow hd (.unheard hf hdeadline)
  | recordsUnheard hdeadline h =>
    rw [decided_none]
    exact ha.recorded hl hk fun d hjob hf _ => .unheard hf (hjob ▸ hdeadline)
  | @publishes r e rest =>
    have hst : ¬ Pending job (.ended r (e :: rest)) := by
      rintro (hu | ⟨-, step, heq⟩)
      · exact Nat.not_lt_zero 0 hu
      · cases heq
    obtain ⟨d, hd, rfl, rfl, hfate⟩ := ha.exists_decision hk hst
    rw [decided_none]
    cases hfate with
    | recorded hf hin => exact ha.follow hd (.recorded hf hin)
  | rests =>
    rw [decided_none]
    obtain ⟨hlt, hget⟩ := List.getElem?_eq_some_iff.mp hk
    rw [← hget, List.set_getElem_self]
    exact ha

/-- **Every course has an account.** -/
theorem Course.account (h : Course channel σ posts line) :
    Account posts line (run channel σ).stores.ledger := by
  induction h with
  | nil => exact ⟨.nil, by simp, by simp, rfl, .nil, by simp [Stores.empty, Trail.Ledger.empty]⟩
  | starts h ho hm ih =>
    rw [run_append_singleton]
    exact ih.start ho
  | moves h hk hp hm ih => exact ih.progress h.inLine hk hp (Course.moves h hk hp hm).inLine
  | stays h hrun ih => rwa [hrun]

/-! ### What clients show -/

/-- The client of a decision stands where its fate is. -/
theorem Course.exists_client (h : Course channel σ posts line) (hd : d ∈ line) :
    ∃ c st, (run channel σ).clients[d.client]? = some c ∧ Stands channel d.job st c.work ∧
      Fate (run channel σ).stores.ledger d st ∧ c.job = d.job := by
  obtain ⟨st, hst, hfate⟩ := h.account.fate d hd
  have hlt := h.account.client_lt hd
  rw [← h.mirrors.length_eq] at hlt
  have hc := List.getElem?_eq_getElem hlt
  obtain ⟨hjob, hstands, -⟩ := h.mirrors.stands _ _ _ hc hst
  exact ⟨_, st, hc, hstands, hfate, hjob⟩

/-- **Where a result comes from.** A command that has its result was decided, and the result is one
that the fate of its decision allows, or it was cut off by a deadline without a decision. -/
theorem Course.fate_of_result (h : Course channel σ posts line) {c : Client}
    {r : Except CommandError Outcome} (hc : (run channel σ).clients[k]? = some c)
    (hr : c.result? = some r) :
    (∃ d ∈ line, d.client = k ∧ d.job = c.job ∧
      Fate (run channel σ).stores.ledger d (.ended r [])) ∨
    (k ∉ line.map Decision.client ∧ c.job.invocation.deadline ≠ none ∧
      ∃ step : Step, r = .error (.deadlineExceeded step.text)) := by
  obtain ⟨st, hp, hst⟩ := h.exists_post hc
  obtain rfl := hst.ended_of_result hr
  by_cases hk : k ∈ line.map Decision.client
  · obtain ⟨d, hd, rfl⟩ := List.mem_map.mp hk
    obtain ⟨st, hst, hfate⟩ := h.account.fate d hd
    rw [hp, Option.some.injEq, Post.mk.injEq] at hst
    obtain ⟨hjob, rfl⟩ := hst
    exact Or.inl ⟨d, hd, rfl, hjob.symm, hfate⟩
  · refine Or.inr ⟨hk, ?_⟩
    rcases h.account.pending k _ hp hk with hu | ⟨hdeadline, step, heq⟩
    · exact absurd hu (Nat.not_lt_zero 0)
    · cases heq
      exact ⟨hdeadline, step, rfl⟩

end FabricRegistry.Traffic
