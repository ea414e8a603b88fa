import FabricRegistry.Proofs.Traffic.Alone

/-!
Deadlines that are kept. A command with nobody else at work, all of whose requests are answered in
time, goes as it would without a deadline; so it comes to its verdict (`Stores.alone_eq_decide`).
-/

namespace FabricRegistry

/-- the invocation without its deadline -/
def Invocation.unhurried (i : Invocation) : Invocation := { i with deadline := none }

@[simp] theorem Invocation.unhurried_provenance (i : Invocation) :
    i.unhurried.provenance = i.provenance := rfl

@[simp] theorem Invocation.unhurried_publishes (i : Invocation) :
    i.unhurried.publishes = i.publishes := rfl

namespace Traffic

open Command (Ask Reply Work bounded missedWrite write record effect)

variable {channel : Channel} {α β : Type} {job : Job} {s : Stores} {f : Fabric}

def Job.unhurried (job : Job) : Job := { job with invocation := job.invocation.unhurried }

/-- the run of work all of whose requests are answered in time, with nobody else at work -/
def inTime (channel : Channel) (w : Dialogue Reply α) (s : Stores) : α × Stores :=
  w.run (fun q s => s.reply channel .inTime q) (fun _ s => s) s

theorem within_inTime {σ : Type} (deadline : Option Instant) (act : σ → α × σ) (s : σ) :
    Timing.inTime.within deadline act s = (some (act s).1, (act s).2) := by
  cases deadline <;> rfl

/-! ### Work that goes the same way -/

/-- Two pieces of work go the same way when they are answered in time. -/
def Alike (channel : Channel) (w w' : Dialogue Reply α) : Prop :=
  ∀ s, inTime channel w s = inTime channel w' s

theorem Alike.refl (w : Dialogue Reply α) : Alike channel w w := fun _ => rfl

theorem inTime_bind (w : Dialogue Reply α) (g : α → Dialogue Reply β) (s : Stores) :
    inTime channel (w.bind g) s =
      inTime channel (g (inTime channel w s).1) (inTime channel w s).2 :=
  Dialogue.run_bind _ _ w g s

theorem Alike.bind {w w' : Dialogue Reply α} {g g' : α → Dialogue Reply β}
    (hw : Alike channel w w') (hg : ∀ a, Alike channel (g a) (g' a)) :
    Alike channel (w.bind g) (w'.bind g') := by
  intro s
  rw [inTime_bind, inTime_bind, hw s, hg _ _]

theorem Alike.andThen {w w' : Work α} {g g' : α → Work β}
    (hw : Alike channel w w') (hg : ∀ a, Alike channel (g a) (g' a)) :
    Alike channel (w.andThen g) (w'.andThen g') := by
  refine hw.bind fun r => ?_
  cases r with
  | ok a => exact hg a
  | error e => exact .refl _

/-! ### The parts of a command -/

theorem inTime_bounded (i : Invocation) (step : Step) (request : Catalogue.Request) (s : Stores) :
    inTime channel (bounded i step request) s =
      ((s.table.reply request).1.mapError .ofCatalogue, (s.askTable request).2) := by
  unfold bounded inTime
  simp only [Dialogue.run, Stores.reply, within_inTime, Stores.askTable]
  cases (s.table.reply request).1 <;> rfl

theorem alike_bounded (i : Invocation) (step : Step) (request : Catalogue.Request) :
    Alike channel (bounded i step request) (bounded i.unhurried step request) := by
  intro s
  rw [inTime_bounded, inTime_bounded]

theorem alike_missedWrite (i : Invocation) (code : Code) (expected : ℕ) :
    Alike channel (missedWrite i code expected) (missedWrite i.unhurried code expected) :=
  (alike_bounded i _ _).andThen fun _ => .refl _

theorem alike_write (i : Invocation) (step : Step) (request : Catalogue.Request) (code : Code)
    (expected : ℕ) : Alike channel (write i step request code expected)
      (write i.unhurried step request code expected) := by
  refine (alike_bounded i step request).bind fun r => ?_
  cases r with
  | ok a => exact .refl _
  | error e =>
    cases e with
    | notFound c => exact alike_missedWrite i code expected
    | _ => exact .refl _

theorem inTime_append (batch : List Envelope) (deadline : Option Instant)
    (next : Option (Except Trail.Error Unit) → Dialogue Reply α) (s : Stores) :
    inTime channel (.ask (.append batch deadline) next) s =
      inTime channel (next (some (s.askLedger batch).1)) (s.askLedger batch).2 := by
  simp only [inTime, Dialogue.run, Stores.reply, within_inTime]

theorem alike_record (channel : Channel) (outbound : String) (stamps : ℕ → Stamp) (i : Invocation)
    (f : Fabric) :
    Alike channel (record outbound stamps i f) (record outbound stamps i.unhurried f) := by
  intro s
  unfold record
  simp only [inTime_append, Invocation.unhurried_provenance, Invocation.unhurried_publishes]
  cases (s.askLedger (Command.envelopes stamps i.provenance f.pending)).1 <;> rfl

/-- **A command that is answered in time goes as it would without a deadline.** -/
theorem alike_work (channel : Channel) (job : Job) :
    Alike channel (job.work channel) (job.unhurried.work channel) := by
  obtain ⟨c, i, stamps⟩ := job
  have hfinish (message : String) (f : Fabric) :
      Alike channel ((record channel.subject stamps i f).andThen (Command.report message))
        ((record channel.subject stamps i.unhurried f).andThen (Command.report message)) :=
    (alike_record channel channel.subject stamps i f).andThen fun _ => .refl _
  cases c with
  | create text d =>
    refine (Alike.refl _).andThen fun f => ?_
    exact (alike_bounded i _ _).andThen (hfinish _)
  | update text d expected =>
    refine (Alike.refl _).andThen fun code => ?_
    refine (alike_bounded i _ _).andThen fun current => ?_
    refine (Alike.refl _).andThen fun f => ?_
    exact (alike_write i _ _ _ _).andThen fun _ => hfinish _ f
  | delete text expected =>
    refine (Alike.refl _).andThen fun code => ?_
    refine (alike_bounded i _ _).andThen fun current => ?_
    refine (Alike.refl _).andThen fun f => ?_
    exact (alike_write i _ _ _ _).andThen fun _ => hfinish _ f

/-- **A command alone comes to its verdict**, also with a deadline, if it is answered in time. -/
theorem Stores.alone_eq_decide (channel : Channel) (job : Job) (hs : s.Orderly) :
    s.alone channel job = s.decide channel job := calc
  s.alone channel job = s.alone channel job.unhurried := alike_work channel job s
  _ = s.decide channel job.unhurried := Stores.alone_eq channel rfl hs
  _ = s.decide channel job := rfl

/-! ### The stores after a command -/

theorem Stores.decide_of_error {e : CommandError} (h : effect s.table job.command = .error e) :
    s.decide channel job = (.error e, s) := by
  simp [Stores.decide, h]

/-- **A command alone leaves orderly stores.** -/
theorem Stores.Orderly.decide (hs : s.Orderly) (channel : Channel) (job : Job) :
    (s.decide channel job).2.Orderly := by
  cases h : effect s.table job.command with
  | error e => rwa [Stores.decide_of_error h]
  | ok f =>
    obtain ⟨x, -, hcode, hversion, hbatch, -⟩ := hs.append_batch h
    have htidy := Command.tidy_settle_effect hs.tidy job.command
    have hgrows := Command.versionOf_le_settle_effect s.table job.command
    rw [h] at htidy hgrows
    simp only [Stores.decide, h, hbatch]
    refine ⟨htidy, fun key hkey => ?_⟩
    rcases List.mem_append.mp hkey with hkey | hkey
    · obtain ⟨code, htext, hle⟩ := hs.keys key hkey
      exact ⟨code, htext, hle.trans (hgrows code)⟩
    · rw [List.map_singleton, List.mem_singleton, Envelope.key_ofFact] at hkey
      subst hkey
      refine ⟨f.code, by rw [hcode], ?_⟩
      rw [Catalogue.Table.versionOf_put, if_pos rfl, hversion]

end Traffic

end FabricRegistry
