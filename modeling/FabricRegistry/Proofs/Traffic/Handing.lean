import FabricRegistry.Proofs.Traffic.Change

/-!
What the channel is handed. A command hands over the envelope of its decision, once, after the
ledger has it, and only for a waiting caller. That no envelope is handed over twice is kept along
the course: what was handed over comes from commands that have nothing left to hand over, and what
is still to be handed over comes from the others.
-/

namespace FabricRegistry.Traffic

open Command (effect)

/-- Client `k` has the envelope of its decision left to hand over and no other, and its caller waits
for it. -/
structure Owes (line : List Decision) (k : ℕ) (job : Job) (e : Envelope) (rest : List Envelope) :
    Prop where
  last : rest = []
  waiting : job.invocation.publishes = true
  decision : ∃ d ∈ line, d.client = k ∧ d.job = job ∧ d.batch = [e]

/-- Where the envelopes stand that the channel was handed, and those that it will be handed. -/
structure Handing (posts : List Post) (line : List Decision) (handed : List (String × Envelope)) :
    Prop where
  owed : ∀ (k : ℕ) (job : Job) (r : Except CommandError Outcome) (e : Envelope)
    (rest : List Envelope), posts[k]? = some ⟨job, .ended r (e :: rest)⟩ → Owes line k job e rest
  /-- what was handed over comes from a command that has nothing left to hand over -/
  origin : ∀ h ∈ handed, ∃ d ∈ line, h.2 ∈ d.batch ∧
    ∃ r, posts[d.client]? = some ⟨d.job, .ended r []⟩
  keys_nodup : (handed.map fun h => h.2.key).Nodup

variable {channel : Channel} {σ : List Action} {posts : List Post} {line : List Decision}
  {handed : List (String × Envelope)} {job : Job} {st st' : Stage} {k : ℕ} {a : Action}
  {s s' : Stores} {verdict : Option Verdict} {e : Envelope}

theorem Opens.stage_ne (h : Opens job st verdict) (r : Except CommandError Outcome)
    (rest : List Envelope) : st ≠ .ended r (e :: rest) := by
  rintro rfl
  cases h with
  | waits hu _ => exact Nat.not_lt_zero 0 hu

/-- A command that has nothing left to ask stays as it is. -/
theorem Progress.stage_of_rests {r : Except CommandError Outcome}
    (hp : Progress channel job s (.ended r []) st' s' verdict) : st' = .ended r [] := by
  cases hp with
  | rests => rfl
  | waits h _ => exact absurd h (Nat.not_lt_zero _)
  | fails hu _ => exact absurd hu (Nat.not_lt_zero 0)
  | writes hu _ => exact absurd hu (Nat.not_lt_zero 0)
  | givesUp _ hu _ => exact absurd hu (Nat.not_lt_zero 0)
  | writesUnheard hu _ _ _ => exact absurd hu (Nat.not_lt_zero 0)

/-- Only a command that has something to hand over hands it over. -/
theorem Progress.handed_eq (hp : Progress channel job s st st' s' verdict) :
    s'.handed = s.handed ∨ ∃ r e rest, st = .ended r (e :: rest) ∧ st' = .ended r rest ∧
      s' = s.hand channel e := by
  cases hp with
  | publishes => exact Or.inr ⟨_, _, _, rfl, rfl, rfl⟩
  | _ => exact Or.inl rfl

theorem Owes.decided {rest : List Envelope} (h : Owes line k job e rest) (j : ℕ) (job' : Job)
    (verdict : Option Verdict) : Owes (decided line j job' verdict) k job e rest := by
  obtain ⟨d, hd, hdecision⟩ := h.decision
  exact ⟨h.last, h.waiting, d, mem_decided.mpr (Or.inl hd), hdecision⟩

namespace Handing

theorem start (hh : Handing posts line handed) (ha : Account posts line s.ledger)
    (ho : Opens job st verdict) :
    Handing (posts ++ [⟨job, st⟩]) (decided line posts.length job verdict) handed := by
  refine ⟨?_, ?_, hh.keys_nodup⟩
  · intro k job' r e rest hp
    rw [List.getElem?_append] at hp
    split at hp
    · exact (hh.owed k job' r e rest hp).decided _ _ _
    · rw [List.getElem?_singleton] at hp
      obtain ⟨-, hp⟩ := Option.ite_none_right_eq_some.mp hp
      cases hp
      exact absurd rfl (ho.stage_ne r rest)
  · intro h hh'
    obtain ⟨d, hd, hbatch, r, hp⟩ := hh.origin h hh'
    refine ⟨d, mem_decided.mpr (Or.inl hd), hbatch, r, ?_⟩
    rw [List.getElem?_append_left (ha.client_lt hd), hp]

/-- What an answered request leaves to be handed over. -/
theorem owed_of_progress (hh : Handing posts line handed) (ha : Account posts line s.ledger)
    (hl : InLine line) (hk : posts[k]? = some ⟨job, st⟩)
    (hp : Progress channel job s st st' s' verdict) {r : Except CommandError Outcome}
    {rest : List Envelope} (hst : st' = .ended r (e :: rest)) : Owes line k job e rest := by
  cases hp with
  | waits _ hu =>
    subst hst
    exact absurd hu (Nat.not_lt_zero 0)
  | records _ =>
    obtain ⟨d, hd, hclient, hjob, hf, e', hbatch, hjobBatch, -⟩ := ha.append_recording hl hk
    rw [hjobBatch] at hst
    cases hpub : job.invocation.publishes with
    | false => simp [hpub] at hst
    | true =>
      simp only [hpub, if_true, Stage.ended.injEq, List.cons.injEq] at hst
      obtain ⟨-, rfl, rfl⟩ := hst
      exact ⟨rfl, hpub, d, hd, hclient, hjob, hbatch⟩
  | publishes =>
    cases hst
    have hlast := (hh.owed k job _ _ _ hk).last
    cases hlast
  | rests => cases hst
  | fails _ _ => cases hst
  | writes _ _ => cases hst
  | givesUp _ _ _ => cases hst
  | writesUnheard _ _ _ _ => cases hst
  | rejected _ => cases hst
  | givesUpRecording _ => cases hst
  | recordsUnheard _ _ => cases hst

/-- What was handed over stays accounted for when a command goes on. -/
theorem origin_of_progress (hh : Handing posts line handed) (hk : posts[k]? = some ⟨job, st⟩)
    (hp : Progress channel job s st st' s' verdict) {h : String × Envelope} (hmem : h ∈ handed) :
    ∃ d ∈ line, h.2 ∈ d.batch ∧
      ∃ r, (posts.set k ⟨job, st'⟩)[d.client]? = some ⟨d.job, .ended r []⟩ := by
  obtain ⟨d, hd, hbatch, r, hpost⟩ := hh.origin h hmem
  refine ⟨d, hd, hbatch, r, ?_⟩
  by_cases hkd : k = d.client
  · subst hkd
    rw [hk] at hpost
    cases hpost
    rw [List.getElem?_set_self (List.getElem?_eq_some_iff.mp hk).1, hp.stage_of_rests]
  · rw [List.getElem?_set_ne hkd, hpost]

/-- **An answered request keeps the account of what is handed over.** -/
theorem progress (hh : Handing posts line s.handed) (ha : Account posts line s.ledger)
    (hl : InLine line) (hk : posts[k]? = some ⟨job, st⟩)
    (hp : Progress channel job s st st' s' verdict) :
    Handing (posts.set k ⟨job, st'⟩) (decided line k job verdict) s'.handed := by
  have hlt := (List.getElem?_eq_some_iff.mp hk).1
  have howed : ∀ (j : ℕ) (job' : Job) (r : Except CommandError Outcome) (e : Envelope)
      (rest : List Envelope), (posts.set k ⟨job, st'⟩)[j]? = some ⟨job', .ended r (e :: rest)⟩ →
      Owes (decided line k job verdict) j job' e rest := by
    intro j job' r e rest hpost
    by_cases hkj : k = j
    · subst hkj
      rw [List.getElem?_set_self hlt] at hpost
      cases hpost
      exact (hh.owed_of_progress ha hl hk hp rfl).decided _ _ _
    · rw [List.getElem?_set_ne hkj] at hpost
      exact (hh.owed j job' r e rest hpost).decided _ _ _
  have horigin : ∀ h ∈ s.handed, ∃ d ∈ decided line k job verdict, h.2 ∈ d.batch ∧
      ∃ r, (posts.set k ⟨job, st'⟩)[d.client]? = some ⟨d.job, .ended r []⟩ := by
    intro h hmem
    obtain ⟨d, hd, h⟩ := hh.origin_of_progress hk hp hmem
    exact ⟨d, mem_decided.mpr (Or.inl hd), h⟩
  rcases hp.handed_eq with heq | ⟨r, e, rest, rfl, rfl, rfl⟩
  · rw [heq]
    exact ⟨howed, horigin, hh.keys_nodup⟩
  · -- one more envelope, and its command has nothing left
    obtain ⟨rfl, -, d, hd, rfl, rfl, hbatch⟩ := hh.owed k job r e rest hk
    refine ⟨howed, ?_, ?_⟩
    · intro h hmem
      rcases List.mem_append.mp hmem with hmem | hmem
      · exact horigin h hmem
      · obtain rfl := List.mem_singleton.mp hmem
        refine ⟨d, mem_decided.mpr (Or.inl hd), by simp [hbatch], r, ?_⟩
        rw [List.getElem?_set_self hlt]
    · rw [Stores.hand, List.map_append]
      refine hh.keys_nodup.append (List.nodup_singleton _) (List.disjoint_singleton.mpr ?_)
      intro hmem
      obtain ⟨h, hmem, hkey⟩ := List.mem_map.mp hmem
      obtain ⟨d', hd', hbatch', r', hpost⟩ := hh.origin h hmem
      have hne : d' ≠ d := by
        rintro rfl
        rw [hk] at hpost
        cases hpost
      exact hl.key_ne hd' hd hne hbatch' (by rw [hbatch]; exact List.mem_singleton_self e) hkey

end Handing

/-- **Every course has an account of what is handed over.** -/
theorem Course.handing (h : Course channel σ posts line) :
    Handing posts line (run channel σ).stores.handed := by
  induction h with
  | nil => exact ⟨by simp, by simp [Stores.empty], .nil⟩
  | starts h ho hm ih =>
    rw [run_append_singleton]
    exact ih.start h.account ho
  | moves h hk hp hm ih => exact ih.progress h.account h.inLine hk hp
  | stays h hrun ih => rwa [hrun]

/-- **No envelope is handed over twice.** -/
theorem handed_keys_nodup (channel : Channel) (σ : List Action) :
    ((run channel σ).stores.handed.map fun h => h.2.key).Nodup := by
  obtain ⟨posts, line, h⟩ := exists_course channel σ
  exact h.handing.keys_nodup

/-- **An envelope is handed over when the ledger has it**, by a command that wrote and whose caller
waits for it. -/
theorem handed_change (hne : (run channel (σ ++ [a])).stores.handed ≠
      (run channel σ).stores.handed) :
    ∃ k timing c e, a = .move k timing ∧ (run channel σ).clients[k]? = some c ∧
      c.job.invocation.publishes = true ∧ (∃ t f, effect t c.job.command = .ok f) ∧
      e ∈ (run channel σ).stores.ledger.events ∧
      (run channel (σ ++ [a])).stores.handed =
        (run channel σ).stores.handed ++ [(channel.subject, e)] := by
  cases a with
  | start job =>
    rw [run_append_singleton] at hne
    exact absurd rfl hne
  | move k timing =>
    obtain ⟨posts, line, h⟩ := exists_course channel (σ ++ [.move k timing])
    rcases h.last_move with hrun | ⟨posts', line', job, st, st', verdict, h', hk, hp⟩
    · exact absurd (by rw [hrun]) hne
    · rcases hp.handed_eq with heq | ⟨r, e, rest, rfl, rfl, hs⟩
      · exact absurd heq hne
      · obtain ⟨rfl, hpub, d, hd, rfl, rfl, hbatch⟩ := h'.handing.owed k job r e rest hk
        obtain ⟨c, st, hc, -, hfate, hjob⟩ := h'.exists_client hd
        obtain ⟨st', hpost, hfate⟩ := h'.account.fate d hd
        rw [hk] at hpost
        cases hpost
        obtain ⟨t, ht⟩ := h'.inLine.verdict_eq hd
        cases hfate with
        | recorded hf hin =>
          refine ⟨d.client, timing, c, e, rfl, hc, hjob ▸ hpub,
            ⟨t, _, hjob ▸ ht.symm.trans hf⟩, ?_, ?_⟩
          · exact hin e (by rw [hbatch]; exact List.mem_singleton_self e)
          · rw [hs]
            rfl

end FabricRegistry.Traffic
