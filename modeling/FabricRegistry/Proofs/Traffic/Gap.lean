import FabricRegistry.Proofs.Traffic.Account

/-!
No gap between rows and trail goes unaccounted for. A row is written before its envelope is
recorded, and a deadline may cut off either request, before or after it took effect; so a version
may have no envelope. Whenever that is so, one command wrote the version, and it is about to record
the envelope or its caller was told (`no_silent_gap`).

The trace says which command wrote a version (`Writes`), and by `Course.writes_iff` these are the
decisions of the line. The rest is read off the account of the course.
-/

namespace FabricRegistry.Traffic

open Command (Work effect)

/-- A client accounts for a version of a code: it is about to record its envelope, or its caller was
told that the envelope is not recorded or that a write was cut off. -/
def AccountsFor (c : Client) (code : Code) (v : ℕ) : Prop :=
  (∃ batch, appending? c.work = some batch ∧ (code.text, v) ∈ batch.map Envelope.key) ∨
  (∃ reason, c.result? = some (.error (.eventsNotRecorded code v reason false))) ∨
  ∃ step : Step, (step = .save ∨ step = .update ∨ step = .delete) ∧
    c.result? = some (.error (.deadlineExceeded step.text))

variable {channel : Channel} {σ : List Action} {posts : List Post} {line : List Decision}
  {job : Job} {st : Stage} {w : Work Outcome} {k : ℕ} {code : Code} {v : ℕ} {f : Fabric}

/-! ### Who wrote -/

@[simp] theorem not_writes_nil : ¬ Writes channel [] k code v := by
  rintro ⟨before, timing, after, h, -⟩
  simp at h

theorem writes_append_singleton {a : Action} : Writes channel (σ ++ [a]) k code v ↔
    Writes channel σ k code v ∨ ∃ timing, a = .move k timing ∧
      (run channel σ).stores.table.versionOf code < v ∧
      (run channel (σ ++ [a])).stores.table.versionOf code = v := by
  constructor
  · rintro ⟨before, timing, after, h, hlt, heq⟩
    rcases List.eq_nil_or_concat after with rfl | ⟨after, b, rfl⟩
    · obtain ⟨rfl, ha⟩ := List.append_inj' h rfl
      cases ha
      exact Or.inr ⟨timing, rfl, hlt, heq⟩
    · rw [List.concat_eq_append, ← List.cons_append, ← List.append_assoc] at h
      obtain ⟨rfl, -⟩ := List.append_inj' h rfl
      exact Or.inl ⟨before, timing, after, rfl, hlt, heq⟩
  · rintro (⟨before, timing, after, rfl, hlt, heq⟩ | ⟨timing, rfl, hlt, heq⟩)
    · exact ⟨before, timing, after ++ [a], by simp, hlt, heq⟩
    · exact ⟨σ, timing, [], rfl, hlt, heq⟩

/-- Progress writes a version exactly by a verdict that writes it. -/
theorem Progress.writes_iff {s s' : Stores} {st' : Stage} {verdict : Option Verdict}
    (h : Progress channel job s st st' s' verdict) :
    (s.table.versionOf code < v ∧ s'.table.versionOf code = v) ↔
      ∃ f, verdict = some (.ok f) ∧ f.code = code ∧ f.version = v := by
  rw [h.table_eq]
  constructor
  · rintro ⟨hlt, heq⟩
    cases hv : verdict with
    | none =>
      rw [hv, Option.elim_none] at heq
      omega
    | some w =>
      rw [hv, Option.elim_some] at heq
      cases hw : w with
      | error e =>
        rw [hw, Catalogue.Table.settle_error] at heq
        omega
      | ok f =>
        rw [hw, Catalogue.Table.settle_ok, Catalogue.Table.versionOf_put] at heq
        split at heq
        · next hcode => exact ⟨f, rfl, hcode, heq⟩
        · omega
  · rintro ⟨f, rfl, rfl, rfl⟩
    have hversion := Command.version_of_effect h.verdict_eq.symm
    rw [Option.elim_some, Catalogue.Table.settle_ok, Catalogue.Table.versionOf_put, if_pos rfl]
    exact ⟨by omega, rfl⟩

/-- **The writes of the trace are the decisions that write.** -/
theorem Course.writes_iff (h : Course channel σ posts line) : Writes channel σ k code v ↔
    ∃ d ∈ line, d.client = k ∧ ∃ f, d.verdict = .ok f ∧ f.code = code ∧ f.version = v := by
  induction h with
  | nil => simp
  | @starts σ posts line job st verdict h ho hm ih =>
    rw [writes_append_singleton, ih]
    constructor
    · rintro (⟨d, hd, hw⟩ | ⟨_, ha, -⟩)
      · exact ⟨d, mem_decided.mpr (Or.inl hd), hw⟩
      · cases ha
    · rintro ⟨d, hd, hclient, f, hf, hw⟩
      rcases mem_decided.mp hd with hd | ⟨w, rfl, rfl⟩
      · exact Or.inl ⟨d, hd, hclient, f, hf, hw⟩
      · -- a command that is decided when it is given fails
        cases ho
        cases hf
  | @moves σ posts line j timing job st st' verdict h hk hp hm ih =>
    rw [writes_append_singleton, ih]
    constructor
    · rintro (⟨d, hd, hw⟩ | ⟨_, ha, hw⟩)
      · exact ⟨d, mem_decided.mpr (Or.inl hd), hw⟩
      · cases ha
        obtain ⟨f, rfl, hf⟩ := hp.writes_iff.mp hw
        exact ⟨⟨k, job, .ok f⟩, mem_decided.mpr (Or.inr ⟨_, rfl, rfl⟩), rfl, f, rfl, hf⟩
    · rintro ⟨d, hd, hclient, f, hf, hw⟩
      rcases mem_decided.mp hd with hd | ⟨w, rfl, rfl⟩
      · exact Or.inl ⟨d, hd, hclient, f, hf, hw⟩
      · obtain rfl : j = k := hclient
        obtain rfl : w = .ok f := hf
        exact Or.inr ⟨timing, rfl, hp.writes_iff.mpr ⟨f, rfl, hw⟩⟩
  | @stays σ posts line j timing h hrun ih =>
    rw [writes_append_singleton, hrun, ih]
    refine ⟨?_, Or.inl⟩
    rintro (hw | ⟨_, _, hlt, heq⟩)
    · exact hw
    · omega

/-- A version is written by one command. -/
theorem Course.writer_unique (h : Course channel σ posts line) {k' : ℕ}
    (hk : Writes channel σ k code v) (hk' : Writes channel σ k' code v) : k = k' := by
  obtain ⟨d, hd, rfl, f, hf, rfl, rfl⟩ := h.writes_iff.mp hk
  obtain ⟨d', hd', rfl, g, hg, hcode, hversion⟩ := h.writes_iff.mp hk'
  by_contra hne
  obtain ⟨x, -, hxc, hxv, hx⟩ := h.inLine.batch_of_mem hd hf
  obtain ⟨y, -, hyc, hyv, hy⟩ := h.inLine.batch_of_mem hd' hg
  refine h.inLine.key_ne hd hd' (fun h => hne (h ▸ rfl)) (x := _) (y := _)
    (by rw [hx]; exact List.mem_singleton_self _) (by rw [hy]; exact List.mem_singleton_self _) ?_
  rw [Envelope.key_ofFact, Envelope.key_ofFact, hxc, hxv, hyc, hyv, hcode, hversion]

/-! ### The accounts -/

/-- **Every version of every row is accounted for** in the state after a schedule. -/
structure Accounted (channel : Channel) (σ : List Action) : Prop where
  /-- no two envelopes have the same aggregate and version -/
  keys_nodup : ((run channel σ).stores.ledger.events.map Envelope.key).Nodup
  /-- an envelope has a version that the row of its code has reached -/
  version_mem : ∀ e ∈ (run channel σ).stores.ledger.events, ∃ (code : Code) (row : Fabric),
    e.aggregateId = code.text ∧ (run channel σ).stores.table.find? code = some row ∧
      1 ≤ e.aggregateVersion ∧ e.aggregateVersion ≤ row.version
  /-- a version without an envelope was written by one command, which accounts for it -/
  gap : ∀ (code : Code) (row : Fabric), (run channel σ).stores.table.find? code = some row →
    ∀ v, 1 ≤ v → v ≤ row.version →
    (code.text, v) ∉ (run channel σ).stores.ledger.events.map Envelope.key →
    ∃ k c, (∀ k', Writes channel σ k' code v ↔ k' = k) ∧
      (run channel σ).clients[k]? = some c ∧ AccountsFor c code v
  /-- what is about to be recorded is taken by the ledger -/
  append_ok : ∀ c ∈ (run channel σ).clients, ∀ batch, appending? c.work = some batch →
    ((run channel σ).stores.ledger.append batch).1 = .ok ()
  /-- no caller is told of a conflict in the ledger -/
  no_conflict : ∀ c ∈ (run channel σ).clients, ∀ code v reason,
    c.result? ≠ some (.error (.eventsNotRecorded code v reason true))
  /-- a command that succeeds wrote its fabric and nothing else, and its one envelope is recorded -/
  success : ∀ (k : ℕ) (c : Client) (o : Outcome), (run channel σ).clients[k]? = some c →
    c.result? = some (.ok o) →
    (∃ e, o.events = [e] ∧ e ∈ (run channel σ).stores.ledger.events ∧
      e.key = (o.fabric.code.text, o.fabric.version)) ∧
    ∀ code v, Writes channel σ k code v ↔ code = o.fabric.code ∧ v = o.fabric.version
  /-- a caller that is told that envelopes are not recorded is told what was written -/
  not_recorded : ∀ (k : ℕ) (c : Client) code v reason conflict,
    (run channel σ).clients[k]? = some c →
    c.result? = some (.error (.eventsNotRecorded code v reason conflict)) →
    c.job.invocation.deadline ≠ none ∧ Writes channel σ k code v
  /-- a request is cut off only by a deadline -/
  cut_off : ∀ c ∈ (run channel σ).clients, ∀ step,
    c.result? = some (.error (.deadlineExceeded step)) → c.job.invocation.deadline ≠ none
  /-- a command that fails otherwise wrote nothing -/
  failure : ∀ (k : ℕ) (c : Client) (e : CommandError), (run channel σ).clients[k]? = some c →
    c.result? = some (.error e) →
    (∀ code v reason conflict, e ≠ .eventsNotRecorded code v reason conflict) →
    (∀ step : Step, step = .save ∨ step = .update ∨ step = .delete →
      e ≠ .deadlineExceeded step.text) →
    ∀ code v, ¬ Writes channel σ k code v

namespace Course

theorem writes_of_decision (h : Course channel σ posts line) {d : Decision} (hd : d ∈ line) :
    Writes channel σ d.client code v ↔ ∃ f, d.verdict = .ok f ∧ f.code = code ∧ f.version = v := by
  rw [h.writes_iff]
  refine ⟨?_, fun hf => ⟨d, hd, rfl, hf⟩⟩
  rintro ⟨d', hd', hclient, hf⟩
  obtain rfl := List.inj_on_of_nodup_map h.account.clients_nodup hd' hd hclient
  exact hf

theorem not_writes_of_not_mem (h : Course channel σ posts line)
    (hk : k ∉ line.map Decision.client) : ¬ Writes channel σ k code v := by
  rw [h.writes_iff]
  rintro ⟨d, hd, rfl, -⟩
  exact hk (List.mem_map_of_mem hd)

/-- A version without an envelope is accounted for by the client whose decision wrote it. -/
theorem accountsFor (h : Course channel σ posts line) {d : Decision} (hd : d ∈ line)
    (hf : d.verdict = .ok f)
    (hgap : (f.code.text, f.version) ∉ (run channel σ).stores.ledger.events.map Envelope.key) :
    ∃ c, (run channel σ).clients[d.client]? = some c ∧ AccountsFor c f.code f.version := by
  obtain ⟨c, st, hc, hst, hfate, -⟩ := h.exists_client hd
  obtain ⟨x, -, hcode, hversion, hbatch⟩ := h.inLine.batch_of_mem hd hf
  have hkey : (f.code.text, f.version) ∈ d.batch.map Envelope.key := by
    simp [hbatch, hcode, hversion]
  refine ⟨c, hc, ?_⟩
  cases hfate with
  | failed hf' => simp [hf] at hf'
  | @recording g hg hfree =>
    obtain rfl : f = g := by simpa [hf] using hg
    have hjob : d.batch = d.job.batch f := by simp [Decision.batch, hf]
    exact Or.inl ⟨_, hst.appending_eq_some.mpr ⟨f, rfl, rfl⟩, hjob ▸ hkey⟩
  | recorded _ hin =>
    obtain ⟨e, he, heq⟩ := List.mem_map.mp hkey
    exact absurd (heq ▸ List.mem_map_of_mem (hin e he)) hgap
  | @unheard g reason hg _ =>
    obtain rfl : f = g := by simpa [hf] using hg
    cases hst with
    | ended hends => exact Or.inr (Or.inl ⟨reason, hends.result_of_nil rfl⟩)
  | @cutOff _ step _ _ hs =>
    cases hst with
    | ended hends => exact Or.inr (Or.inr ⟨step, hs, hends.result_of_nil rfl⟩)

end Course

/-- **No silent gap.** Whatever commands are given, in whatever schedule and with whatever
deadlines, every version of every row is accounted for. -/
theorem no_silent_gap (channel : Channel) (σ : List Action) : Accounted channel σ := by
  obtain ⟨posts, line, h⟩ := exists_course channel σ
  have ha := h.account
  constructor
  case keys_nodup => exact ha.keys_eq ▸ ha.keys_nodup
  case version_mem =>
    intro e he
    obtain ⟨code, hid, h1, hle⟩ := h.inLine.key_mem (ha.mem_envelopesOf he)
    rw [← h.table_eq] at hle
    obtain ⟨row, hrow, hv⟩ := Catalogue.Table.exists_row h1 hle
    exact ⟨code, row, hid, hrow, h1, hv⟩
  case gap =>
    intro code row hrow v h1 hv hgap
    rw [← Catalogue.Table.versionOf_of_find? hrow, h.table_eq] at hv
    obtain ⟨d, hd, f, hf, rfl, rfl⟩ := h.inLine.exists_of_version h1 hv
    have hw : Writes channel σ d.client f.code f.version :=
      (h.writes_of_decision hd).mpr ⟨f, hf, rfl, rfl⟩
    obtain ⟨c, hc, hcounts⟩ := h.accountsFor hd hf hgap
    refine ⟨d.client, c, fun k' => ⟨fun hw' => h.writer_unique hw' hw, ?_⟩, hc, hcounts⟩
    rintro rfl
    exact hw
  case append_ok =>
    intro c hc batch hbatch
    obtain ⟨k, hk⟩ := List.mem_iff_getElem?.mp hc
    obtain ⟨st, hp, hst⟩ := h.exists_post hk
    obtain ⟨f, rfl, rfl⟩ := hst.appending_eq_some.mp hbatch
    obtain ⟨_, _, _, _, _, _, _, _, _, happend⟩ := ha.append_recording h.inLine hp
    rw [happend]
  case no_conflict =>
    intro c hc code v reason hr
    obtain ⟨k, hk⟩ := List.mem_iff_getElem?.mp hc
    rcases h.fate_of_result hk hr with ⟨d, hd, -, -, hfate⟩ | ⟨-, -, step, hstep⟩
    · cases hfate with
      | failed hf => exact h.inLine.verdict_ne_eventsNotRecorded hd hf
    · cases hstep
  case success =>
    intro k c o hk hr
    rcases h.fate_of_result hk hr with ⟨d, hd, rfl, -, hfate⟩ | ⟨-, -, step, hstep⟩
    · cases hfate with
      | @recorded f _ hf hin =>
        obtain ⟨x, -, hcode, hversion, hbatch⟩ := h.inLine.batch_of_mem hd hf
        have hjob : d.job.batch f = d.batch := by simp [Decision.batch, hf]
        refine ⟨⟨_, hjob.trans hbatch, hin _ (by simp [hbatch]), by simp [hcode, hversion]⟩, ?_⟩
        intro code v
        rw [h.writes_of_decision hd]
        constructor
        · rintro ⟨g, hg, rfl, rfl⟩
          obtain rfl : f = g := by simpa [hf] using hg
          exact ⟨rfl, rfl⟩
        · rintro ⟨rfl, rfl⟩
          exact ⟨f, hf, rfl, rfl⟩
    · cases hstep
  case not_recorded =>
    intro k c code v reason conflict hk hr
    rcases h.fate_of_result hk hr with ⟨d, hd, rfl, hjob, hfate⟩ | ⟨-, -, step, hstep⟩
    · cases hfate with
      | failed hf => exact absurd hf (h.inLine.verdict_ne_eventsNotRecorded hd)
      | @unheard f _ hf hdeadline =>
        exact ⟨hjob ▸ hdeadline, (h.writes_of_decision hd).mpr ⟨f, hf, rfl, rfl⟩⟩
    · cases hstep
  case cut_off =>
    intro c hc step hr
    obtain ⟨k, hk⟩ := List.mem_iff_getElem?.mp hc
    rcases h.fate_of_result hk hr with ⟨d, hd, rfl, hjob, hfate⟩ | ⟨-, hdeadline, -⟩
    · generalize hst : Stage.ended _ _ = st at hfate
      cases hfate with
      | failed hf =>
        cases hst
        exact absurd hf (h.inLine.verdict_ne_deadlineExceeded hd)
      | cutOff _ hdeadline _ => exact hjob ▸ hdeadline
      | recording _ _ => cases hst
      | recorded _ _ => cases hst
      | unheard _ _ => cases hst
    · exact hdeadline
  case failure =>
    intro k c e hk hr hne hcut code v
    rcases h.fate_of_result hk hr with ⟨d, hd, rfl, hjob, hfate⟩ | ⟨hnot, -, -⟩
    · rw [h.writes_of_decision hd]
      rintro ⟨f, hf, -⟩
      cases hfate with
      | failed hf' => simp [hf] at hf'
      | unheard _ _ => exact hne _ _ _ _ rfl
      | cutOff _ _ hs => exact hcut _ hs rfl
    · exact h.not_writes_of_not_mem hnot

end FabricRegistry.Traffic
