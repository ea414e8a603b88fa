import FabricRegistry.Proofs.Traffic.Account

/-!
A command with nobody else at work. Its run is the answering of its requests one after the other,
so what `progress` says of one answer gives the whole: it comes to its verdict, and if it writes,
its envelope is recorded and, for a waiting caller, handed over (`Stores.alone_eq`). For this the
stores must be `Orderly`, as all stores are that commands can leave (`orderly_run`).
-/

namespace FabricRegistry.Traffic

open Command (Work effect)

/-- Rows are tidy, and no key is taken beyond the version of its row. -/
structure Stores.Orderly (s : Stores) : Prop where
  tidy : s.table.Tidy
  keys : ∀ key ∈ s.ledger.keys, ∃ code : Code, key.1 = code.text ∧ key.2 ≤ s.table.versionOf code

/-- what a command comes to alone: the result of its verdict, and the stores after it -/
def Stores.decide (channel : Channel) (job : Job) (s : Stores) :
    Except CommandError Outcome × Stores :=
  match effect s.table job.command with
  | .error e => (.error e, s)
  | .ok f =>
    (.ok ⟨f.settled, job.batch f⟩,
      { table := s.table.put f.settled
        ledger := ⟨s.ledger.events ++ job.batch f,
          s.ledger.keys ++ (job.batch f).map Envelope.key⟩
        handed := s.handed ++
          (if job.invocation.publishes then job.batch f else []).map (channel.subject, ·) })

variable {channel : Channel} {job : Job} {s : Stores} {st : Stage} {w : Work Outcome}

def finishAlone (channel : Channel) (w : Work Outcome) (s : Stores) :
    Except CommandError Outcome × Stores :=
  w.run (fun q s => s.reply channel .inTime q) (fun _ s => s) s

theorem finishAlone_advance (w : Work Outcome) (s : Stores) :
    finishAlone channel w s = finishAlone channel (advance channel .inTime w s).1
      (advance channel .inTime w s).2 := by
  induction w with
  | done r => rfl
  | remark m rest ih => exact ih
  | ask q next _ => rfl

/-- Work that has its result hands over what is left. -/
theorem finishAlone_of_endsIn {r : Except CommandError Outcome} {rest : List Envelope}
    (h : EndsIn channel r rest w) (s : Stores) :
    finishAlone channel w s =
      (r, { s with handed := s.handed ++ rest.map (channel.subject, ·) }) := by
  induction h generalizing s with
  | done => simp [finishAlone, Dialogue.run]
  | remark _ ih => exact ih s
  | @publish e rest next _ ih =>
    have := ih (channel.reply (s.handed ++ [(channel.subject, e)])) (s.hand channel e)
    simp only [Stores.hand, List.append_assoc] at this
    exact this

theorem Stores.Orderly.key_free (hs : s.Orderly) {x : Fact}
    (hx : s.table.versionOf x.code < x.version) : (x.code.text, x.version) ∉ s.ledger.keys := by
  intro hmem
  obtain ⟨code, htext, hle⟩ := hs.keys _ hmem
  obtain rfl := Code.text_injective htext
  exact absurd hle (by omega)

/-- A fabric that is written has one envelope, and the ledger takes it. -/
theorem Stores.Orderly.append_batch (hs : s.Orderly) {f : Fabric}
    (he : effect s.table job.command = .ok f) :
    ∃ x : Fact, f.pending = [x] ∧ x.code = f.code ∧ x.version = f.version ∧
      job.batch f = [.ofFact (job.stamps 0) x job.invocation.provenance] ∧
      s.ledger.append (job.batch f) = (.ok (), ⟨s.ledger.events ++ job.batch f,
        s.ledger.keys ++ (job.batch f).map Envelope.key⟩) := by
  obtain ⟨x, hx, hcode, hversion, hbatch⟩ := job.batch_of_effect he
  have hfree : (x.code.text, x.version) ∉ s.ledger.keys := by
    refine hs.key_free ?_
    rw [hcode, hversion, Command.version_of_effect he]
    exact Nat.lt_succ_self _
  refine ⟨x, hx, hcode, hversion, hbatch, ?_⟩
  rw [hbatch]
  exact Trail.Ledger.append_of_fresh (Envelope.validate_ofFact _ _ _) hfree

/-- A command whose fabric is written records its envelope and hands it over. -/
theorem finishAlone_of_recording (hd : job.invocation.deadline = none) (hs : s.Orderly)
    {f : Fabric} (he : effect s.table job.command = .ok f)
    (hst : Stands channel job (.recording f) w) :
    finishAlone channel w (s.put f) = s.decide channel job := by
  obtain ⟨x, -, -, -, -, happend⟩ := hs.append_batch he
  have htidy : (s.put f).table.Tidy := by
    have := Command.tidy_settle_effect hs.tidy job.command
    rwa [he] at this
  obtain ⟨st', verdict, hst', -, hp⟩ := progress .inTime hst trivial htidy
  rw [finishAlone_advance]
  generalize advance channel .inTime w (s.put f) = p at hst' hp
  obtain ⟨w', s'⟩ := p
  cases hp with
  | records h =>
    cases hst' with
    | ended hends =>
      rw [finishAlone_of_endsIn hends]
      simp [Stores.decide, he, Stores.put, happend]
  | rejected h =>
    rw [Stores.put, happend] at h
    cases h
  | givesUpRecording h => exact absurd hd h
  | recordsUnheard h _ => exact absurd hd h
  | waits h _ => exact absurd h (Nat.not_lt_zero _)
  | fails hu _ => exact absurd hu (Nat.not_lt_zero 0)
  | writes hu _ => exact absurd hu (Nat.not_lt_zero 0)
  | givesUp _ hu _ => exact absurd hu (Nat.not_lt_zero 0)
  | writesUnheard hu _ _ _ => exact absurd hu (Nat.not_lt_zero 0)

/-- An undecided command comes to its verdict. -/
theorem finishAlone_of_undecided (hd : job.invocation.deadline = none) (hs : s.Orderly) :
    ∀ (n : ℕ) (st : Stage) (w : Work Outcome), st.requests = n → st.Undecided →
      Stands channel job st w → st.Sound s.table →
      finishAlone channel w s = s.decide channel job := by
  intro n
  -- the requests that may still be made get fewer as long as nothing is decided
  induction n using Nat.strong_induction_on with
  | _ n ih =>
    intro st w hn hu hst hsound
    obtain ⟨st', verdict, hst', hsound', hp⟩ := progress .inTime hst hsound hs.tidy
    rw [finishAlone_advance]
    generalize advance channel .inTime w s = p at hst' hsound' hp
    obtain ⟨w', s'⟩ := p
    cases hp with
    | waits hlt hu' => exact ih _ (hn ▸ hlt) st' w' rfl hu' hst' hsound'
    | fails _ he =>
      cases hst' with
      | ended hends =>
        rw [finishAlone_of_endsIn hends]
        simp [Stores.decide, he]
    | writes _ he => exact finishAlone_of_recording hd hs he hst'
    | givesUp _ _ h => exact absurd hd h
    | writesUnheard _ h _ _ => exact absurd hd h
    | records => exact absurd hu (Nat.not_lt_zero 0)
    | rejected => exact absurd hu (Nat.not_lt_zero 0)
    | givesUpRecording => exact absurd hu (Nat.not_lt_zero 0)
    | recordsUnheard => exact absurd hu (Nat.not_lt_zero 0)
    | publishes => exact absurd hu (Nat.not_lt_zero 0)
    | rests => exact absurd hu (Nat.not_lt_zero 0)

/-- **A command alone comes to its verdict.** -/
theorem Stores.alone_eq (channel : Channel) (hd : job.invocation.deadline = none) (hs : s.Orderly) :
    s.alone channel job = s.decide channel job := by
  obtain ⟨st, verdict, ho, hst⟩ := exists_opens channel job
  show finishAlone channel (job.work channel) s = _
  cases ho with
  | waits hu hsound => exact finishAlone_of_undecided hd hs _ st _ rfl hu hst (hsound _)
  | fails he =>
    cases hst with
    | ended hends =>
      rw [finishAlone_of_endsIn hends]
      simp [Stores.decide, he s.table]

/-! ### Stores that commands can leave -/

/-- **All stores that commands can leave are orderly**, also while commands are at work. -/
theorem orderly_run (channel : Channel) (σ : List Action) : (run channel σ).stores.Orderly := by
  obtain ⟨posts, line, h⟩ := exists_course channel σ
  refine ⟨h.tidy, ?_⟩
  intro key hkey
  rw [h.account.keys_eq] at hkey
  obtain ⟨e, he, rfl⟩ := List.mem_map.mp hkey
  obtain ⟨code, hid, -, hle⟩ := h.inLine.key_mem (h.account.mem_envelopesOf he)
  exact ⟨code, hid, h.table_eq ▸ hle⟩

/-- **The service one command at a time.** On all stores that commands can leave, a command without
a deadline that runs alone fails as its effect does and changes nothing, or it writes the fabric of
its effect: only the row of its code changes, its result is this row, and the ledger grows by the
one envelope of the result, which has the key, the type and the body of the fact and is handed over
for a waiting caller. -/
theorem alone_after_run (channel channel' : Channel) (σ : List Action) (job : Job)
    (hd : job.invocation.deadline = none) :
    let s := (run channel σ).stores
    match effect s.table job.command with
    | .error e => s.alone channel' job = (.error e, s)
    | .ok f => ∃ (x : Fact) (e : Envelope) (s' : Stores),
        s.alone channel' job = (.ok ⟨f.settled, [e]⟩, s') ∧
        (∀ code, s'.table.find? code =
          if code = f.code then some f.settled else s.table.find? code) ∧
        s'.ledger.events = s.ledger.events ++ [e] ∧
        s'.handed = s.handed ++
          (if job.invocation.publishes then [(channel'.subject, e)] else []) ∧
        f.pending = [x] ∧ x.code = f.code ∧ x.version = f.version ∧
        e.key = (f.code.text, f.version) ∧ e.aggregateType = Envelope.fabricType ∧
        e.eventType = x.eventType ∧ e.payload = x.body ∧
        e.provenance = job.invocation.provenance := by
  intro s
  have hs : s.Orderly := orderly_run channel σ
  have halone := Stores.alone_eq channel' hd hs
  cases he : effect s.table job.command with
  | error e => simpa [Stores.decide, he] using halone
  | ok f =>
    obtain ⟨x, hx, hcode, hversion, hbatch, -⟩ := hs.append_batch he
    rw [Stores.decide, he] at halone
    simp only [hbatch] at halone
    refine ⟨x, _, _, halone, ?_, rfl, ?_, hx, hcode, hversion, ?_, rfl, rfl, rfl, rfl⟩
    · intro code
      show (s.table.put f.settled).find? code = _
      rw [Catalogue.Table.find?_put, Fabric.settled_code]
      simp only [eq_comm]
    · cases job.invocation.publishes <;> rfl
    · rw [Envelope.key_ofFact, hcode, hversion]

/-- After the race the code is free again: a creation brings the deleted fabric back at version
3. -/
theorem alone_after_race : ∃ (e : Envelope) (s' : Stores),
    (run .silent race).stores.alone .silent
        (.ofCommand (.create "LN100" ⟨"Linen", "m", "BACK"⟩)) =
      (.ok ⟨.restore linen ⟨"Linen", "m", "BACK"⟩ .active 3, [e]⟩, s') ∧
    s'.ledger.events = (run .silent race).stores.ledger.events ++ [e] ∧
    e.key = ("LN100", 3) := by
  have he : effect (run .silent race).stores.table (.create "LN100" ⟨"Linen", "m", "BACK"⟩) =
      .ok (.changed linen ⟨"Linen", "m", "BACK"⟩ .active 3
        (.reactivated ⟨"Linen", "m", "BACK"⟩)) := by rfl
  have h := alone_after_run .silent .silent race
    (.ofCommand (.create "LN100" ⟨"Linen", "m", "BACK"⟩)) rfl
  simp only [Job.ofCommand, he] at h
  obtain ⟨x, e, s', halone, -, hevents, -, -, -, -, hkey, -⟩ := h
  exact ⟨e, s', halone, hevents, hkey⟩

end FabricRegistry.Traffic
