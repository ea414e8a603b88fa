import FabricRegistry.Proofs.Traffic.Gap

/-!
What one action changes. An action changes the table by writing the fabric of the command that it
moves, and the ledger only for a command that has written before; so the versions of rows never
fall, and a command that changes no row changes nothing at all.
-/

namespace FabricRegistry.Traffic

open Command (effect)

variable {channel : Channel} {σ : List Action} {posts : List Post} {line : List Decision}
  {job : Job} {s s' : Stores} {st st' : Stage} {verdict : Option Verdict} {k : ℕ} {timing : Timing}

theorem Progress.table_change (h : Progress channel job s st st' s' verdict)
    (hne : s'.table ≠ s.table) :
    ∃ f, effect s.table job.command = .ok f ∧ s'.table = s.table.put f.settled := by
  have htable := h.table_eq
  cases verdict with
  | none => exact absurd htable hne
  | some v =>
    have hv := h.verdict_eq
    cases v with
    | error e => exact absurd htable hne
    | ok f => exact ⟨f, hv.symm, htable⟩

theorem Progress.ledger_change (h : Progress channel job s st st' s' verdict)
    (hne : s'.ledger ≠ s.ledger) : ∃ f, st = .recording f := by
  cases h with
  | records _ => exact ⟨_, rfl⟩
  | recordsUnheard _ _ => exact ⟨_, rfl⟩
  | _ => exact absurd rfl hne

/-- The last action of a client: nothing happens, or it makes progress. -/
theorem Course.last_move (h : Course channel (σ ++ [.move k timing]) posts line) :
    run channel (σ ++ [.move k timing]) = run channel σ ∨
    ∃ posts' line' job st st' verdict, Course channel σ posts' line' ∧
      posts'[k]? = some ⟨job, st⟩ ∧ Progress channel job (run channel σ).stores st st'
        (run channel (σ ++ [.move k timing])).stores verdict := by
  generalize hτ : σ ++ [.move k timing] = τ at h
  cases h with
  | nil => simp at hτ
  | starts h _ _ =>
    obtain ⟨-, ha⟩ := List.append_inj' hτ rfl
    cases ha
  | moves h hk hp _ =>
    obtain ⟨rfl, ha⟩ := List.append_inj' hτ rfl
    cases ha
    exact Or.inr ⟨_, _, _, _, _, _, h, hk, hp⟩
  | stays h hrun =>
    obtain ⟨rfl, ha⟩ := List.append_inj' hτ rfl
    cases ha
    exact Or.inl hrun

/-- **An action that changes the table writes the fabric of its command.** -/
theorem table_change (hne : (run channel (σ ++ [.move k timing])).stores.table ≠
      (run channel σ).stores.table) :
    ∃ c f, (run channel σ).clients[k]? = some c ∧
      effect (run channel σ).stores.table c.job.command = .ok f ∧
      (run channel (σ ++ [.move k timing])).stores.table =
        (run channel σ).stores.table.put f.settled := by
  obtain ⟨posts, line, h⟩ := exists_course channel (σ ++ [.move k timing])
  rcases h.last_move with hrun | ⟨posts', line', job, st, st', verdict, h', hk, hp⟩
  · exact absurd (by rw [hrun]) hne
  · obtain ⟨f, hf, htable⟩ := hp.table_change hne
    have hlt := (List.getElem?_eq_some_iff.mp hk).1
    rw [← h'.mirrors.length_eq] at hlt
    have hc := List.getElem?_eq_getElem hlt
    obtain ⟨hjob, -, -⟩ := h'.mirrors.stands _ _ _ hc hk
    exact ⟨_, f, hc, hjob ▸ hf, htable⟩

/-- **An action that changes the ledger is of a client that has written.** -/
theorem ledger_change (hne : (run channel (σ ++ [.move k timing])).stores.ledger ≠
      (run channel σ).stores.ledger) : ∃ code v, Writes channel σ k code v := by
  obtain ⟨posts, line, h⟩ := exists_course channel (σ ++ [.move k timing])
  rcases h.last_move with hrun | ⟨posts', line', job, st, st', verdict, h', hk, hp⟩
  · exact absurd (by rw [hrun]) hne
  · obtain ⟨f, rfl⟩ := hp.ledger_change hne
    obtain ⟨d, hd, rfl, -, hf, -⟩ := h'.account.append_recording h'.inLine hk
    exact ⟨f.code, f.version, (h'.writes_of_decision hd).mpr ⟨f, hf, rfl, rfl⟩⟩

/-- **The versions of rows do not fall.** -/
theorem versionOf_le_run (channel : Channel) (σ τ : List Action) (code : Code) :
    (run channel σ).stores.table.versionOf code ≤
      (run channel (σ ++ τ)).stores.table.versionOf code := by
  induction τ using List.reverseRecOn with
  | nil => rw [List.append_nil]
  | append_singleton τ a ih =>
    rw [← List.append_assoc]
    refine ih.trans ?_
    cases a with
    | start job =>
      rw [run_append_singleton]
      exact le_rfl
    | move k timing =>
      by_cases hne : (run channel (σ ++ τ ++ [.move k timing])).stores.table =
          (run channel (σ ++ τ)).stores.table
      · rw [hne]
      · obtain ⟨c, f, -, hf, htable⟩ := table_change hne
        have hle := Command.versionOf_le_settle_effect (run channel (σ ++ τ)).stores.table
          c.job.command code
        rwa [hf, Catalogue.Table.settle_ok, ← htable] at hle

end FabricRegistry.Traffic
