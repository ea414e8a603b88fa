import FabricRegistry.Proofs.Traffic.Request
import FabricRegistry.Proofs.Traffic.Stage
import FabricRegistry.Proofs.Trail.Ledger

/-!
What one answered request does to a command and to the stores. The work of a command is opened in
this module only, by `exists_opens` and `progress`: all that is shown of many commands at work is
shown of `Opens` and `Progress`.

An undecided command decides by one request to the table, and its *verdict* is what
`Command.effect` says of the table at that moment: either it fails and the stores stay as they
are, or the fabric of the effect is written. A command that fails without a look at the table has
its verdict from the beginning.
-/

namespace FabricRegistry.Traffic

open Command (Work bounded write missedWrite effect)

namespace Stores

def put (f : Fabric) (s : Stores) : Stores := { s with table := s.table.put f.settled }

def record (batch : List Envelope) (s : Stores) : Stores :=
  { s with ledger := (s.ledger.append batch).2 }

def hand (channel : Channel) (e : Envelope) (s : Stores) : Stores :=
  { s with handed := s.handed ++ [(channel.subject, e)] }

end Stores

/-- **What one answered request does**: the stage of the command and the stores, before and after,
and the verdict if it is reached. -/
inductive Progress (channel : Channel) (job : Job) (s : Stores) :
    Stage → Stage → Stores → Option Verdict → Prop where
  /-- nothing is decided -/
  | waits {st st'} (h : st'.requests < st.requests) (hu : st'.Undecided) :
      Progress channel job s st st' s none
  /-- the command fails as its effect does -/
  | fails {st e} (hu : st.Undecided) (h : effect s.table job.command = .error e) :
      Progress channel job s st (.ended (.error e) []) s (some (.error e))
  /-- the fabric of the effect is written -/
  | writes {st f} (hu : st.Undecided) (h : effect s.table job.command = .ok f) :
      Progress channel job s st (.recording f) (s.put f) (some (.ok f))
  /-- the deadline passes and nothing is written -/
  | givesUp {st} (step : Step) (hu : st.Undecided) (hd : job.invocation.deadline ≠ none) :
      Progress channel job s st (.ended (.error (.deadlineExceeded step.text)) []) s none
  /-- the fabric of the effect is written, but the deadline passes before the reply -/
  | writesUnheard {st f} {step : Step} (hu : st.Undecided) (hd : job.invocation.deadline ≠ none)
      (h : effect s.table job.command = .ok f)
      (hs : step = .save ∨ step = .update ∨ step = .delete) :
      Progress channel job s st (.ended (.error (.deadlineExceeded step.text)) []) (s.put f)
        (some (.ok f))
  /-- the envelopes are recorded -/
  | records {f} (h : (s.ledger.append (job.batch f)).1 = .ok ()) :
      Progress channel job s (.recording f)
        (.ended (.ok ⟨f.settled, job.batch f⟩)
          (if job.invocation.publishes then job.batch f else []))
        (s.record (job.batch f)) none
  /-- the ledger does not take the envelopes -/
  | rejected {f e} (h : (s.ledger.append (job.batch f)).1 = .error e) :
      Progress channel job s (.recording f)
        (.ended (.error (.eventsNotRecorded f.code f.version e.message e.isConflict)) []) s none
  /-- the deadline passes and the envelopes are not recorded -/
  | givesUpRecording {f} (hd : job.invocation.deadline ≠ none) :
      Progress channel job s (.recording f)
        (.ended (.error (.eventsNotRecorded f.code f.version "deadline exceeded" false)) []) s none
  /-- the envelopes are recorded, but the deadline passes before the reply -/
  | recordsUnheard {f} (hd : job.invocation.deadline ≠ none)
      (h : (s.ledger.append (job.batch f)).1 = .ok ()) :
      Progress channel job s (.recording f)
        (.ended (.error (.eventsNotRecorded f.code f.version "deadline exceeded" false)) [])
        (s.record (job.batch f)) none
  /-- one more envelope is handed over -/
  | publishes {r e rest} :
      Progress channel job s (.ended r (e :: rest)) (.ended r rest) (s.hand channel e) none
  /-- nothing is left to ask -/
  | rests {r} : Progress channel job s (.ended r []) (.ended r []) s none

variable {channel : Channel} {timing : Timing} {job : Job} {s : Stores}

/-- Work leads from a stage of a command to a later one. -/
def Leads (channel : Channel) (job : Job) (s : Stores) (st : Stage) (p : Work Outcome × Stores) :
    Prop :=
  ∃ st' verdict, Stands channel job st' p.1 ∧ st'.Sound p.2.table ∧
    Progress channel job s st st' p.2 verdict

/-! ### When a command is given -/

/-- Where a command stands when it is given, and its verdict if it needs no request. -/
inductive Opens (job : Job) : Stage → Option Verdict → Prop where
  | waits {st} (hu : st.Undecided) (hs : ∀ t, st.Sound t) : Opens job st none
  | fails {e} (h : ∀ t, effect t job.command = .error e) :
      Opens job (.ended (.error e) []) (some (.error e))

theorem exists_opens_revision (rev : Revision) (message : String) {text : String} {expected : ℕ}
    (hc : job.command = rev.command text expected)
    (hwork : job.work channel = (Work.ofValidation (Code.ofString text)).andThen fun code =>
      (bounded job.invocation .load (.findActive code)).andThen fun current =>
      (Work.ofFabric (rev.operation current expected)).andThen fun f =>
      (write job.invocation rev.step (rev.request f) code expected).andThen fun _ =>
      job.finish channel message f) :
    ∃ st verdict, Opens job st verdict ∧ Stands channel job st (job.work channel) := by
  cases ht : Code.ofString text with
  | error e =>
    rw [ht] at hwork
    refine ⟨_, _, .fails fun t =>
      hc ▸ Revision.effect_of_current_error (Command.current_of_bad_code ht), ?_⟩
    rw [hwork]
    exact .ended .done
  | ok code =>
    rw [ht] at hwork
    refine ⟨.loading code, none, .waits (Nat.succ_pos 2) fun _ => trivial, ?_⟩
    rw [hwork]
    exact .loading hc ht

/-- Every command opens at a stage that its work stands at. -/
theorem exists_opens (channel : Channel) (job : Job) :
    ∃ st verdict, Opens job st verdict ∧ Stands channel job st (job.work channel) := by
  obtain ⟨command, invocation, stamps⟩ := job
  cases command with
  | create text d =>
    have hwork : Job.work channel ⟨.create text d, invocation, stamps⟩ =
        (Work.ofFabric (Fabric.create text d)).andThen fun f =>
        (bounded invocation .save (.save f)).andThen
          (Job.finish channel ⟨.create text d, invocation, stamps⟩ "Fabric created") := rfl
    cases hf : Fabric.create text d with
    | ok f =>
      rw [hf] at hwork
      refine ⟨.saving f, none, .waits (Nat.succ_pos 0) fun _ => trivial, ?_⟩
      rw [hwork]
      exact .saving rfl hf
    | error e =>
      rw [hf] at hwork
      refine ⟨_, _, .fails fun t => Command.effect_create_of_error hf, ?_⟩
      rw [hwork]
      exact .ended .done
  | update text d expected =>
    exact exists_opens_revision (.update d) "Fabric updated" rfl rfl
  | delete text expected =>
    exact exists_opens_revision .delete "Fabric deleted" rfl rfl

/-! ### Before the write -/

theorem leads_fails {st : Stage} {e : CommandError} (hu : st.Undecided)
    (h : effect s.table job.command = .error e) : Leads channel job s st (Work.fail e, s) :=
  ⟨_, _, .ended .done, trivial, .fails hu h⟩

theorem leads_givesUp {st : Stage} (step : Step) (hu : st.Undecided)
    (hd : job.invocation.deadline ≠ none) :
    Leads channel job s st (Work.fail (.deadlineExceeded step.text), s) :=
  ⟨_, _, .ended .done, trivial, .givesUp step hu hd⟩

theorem leads_saving {text d f} (hc : job.command = .create text d)
    (hf : Fabric.create text d = .ok f) (htidy : s.table.Tidy) :
    Leads channel job s (.saving f) (advance channel timing
      ((bounded job.invocation .save (.save f)).andThen
        (job.finish channel "Fabric created")) s) := by
  obtain ⟨code, ht, hd, rfl⟩ := Fabric.create_eq_ok hf
  set f : Fabric := _
  have hu : (Stage.saving f).Undecided := Nat.one_pos
  -- what the table replies, by the row of the code
  have hreply : (∃ p, s.table.reply (.save f) = (.ok p, s.table.put p.settled) ∧
        effect s.table job.command = .ok p) ∨
      (s.table.reply (.save f) = (.error (.duplicateCode code), s.table) ∧
        effect s.table job.command = .error (.duplicateCode code)) := by
    rw [hc]
    cases hr : s.table.find? code with
    | none =>
      exact Or.inl ⟨f, Catalogue.Table.save_of_none hr, Command.effect_create_of_none ht hd hr⟩
    | some row =>
      cases hs : row.status with
      | active =>
        exact Or.inr ⟨Catalogue.Table.save_of_active hr hs,
          Command.effect_create_of_active ht hd hr hs⟩
      | deleted =>
        exact Or.inl ⟨_, Catalogue.Table.save_of_deleted hr hs (htidy _ _ hr).1 hd rfl,
          Command.effect_create_of_deleted ht hd hr hs⟩
  rcases hreply with ⟨p, hp, he⟩ | ⟨hp, he⟩
  · rcases advance_granted hp (job.finish channel "Fabric created") with h | ⟨hdl, h | h⟩
    · rw [h]
      exact ⟨_, _, .recording, trivial, .writes hu he⟩
    · rw [h]
      exact leads_givesUp .save hu hdl
    · rw [h]
      exact ⟨_, _, .ended .done, trivial, .writesUnheard hu hdl he (Or.inl rfl)⟩
  · rcases advance_refused hp (job.finish channel "Fabric created") with h | ⟨hdl, h⟩
    · rw [h]
      exact leads_fails hu he
    · rw [h]
      exact leads_givesUp .save hu hdl

theorem leads_loading {text expected} {rev : Revision} {code : Code} {message : String}
    (hc : job.command = rev.command text expected) (ht : Code.ofString text = .ok code)
    (htidy : s.table.Tidy) :
    Leads channel job s (.loading code) (advance channel timing
      ((bounded job.invocation .load (.findActive code)).andThen fun current =>
        (Work.ofFabric (rev.operation current expected)).andThen fun f =>
        (write job.invocation rev.step (rev.request f) code expected).andThen fun _ =>
        job.finish channel message f) s) := by
  have hu : (Stage.loading code).Undecided := Nat.succ_pos 2
  set rest : Fabric → Work Outcome := _
  have refused (h : s.table.findActive code = .error (.notFound code))
      (he : effect s.table job.command = .error (.notFound code)) :
      Leads channel job s (.loading code) (advance channel timing
        ((bounded job.invocation .load (.findActive code)).andThen rest) s) := by
    have hreply : s.table.reply (.findActive code) = (.error (.notFound code), s.table) := by
      rw [Catalogue.Table.reply, h]
    rcases advance_refused hreply rest with h | ⟨hdl, h⟩
    · rw [h]
      exact leads_fails hu he
    · rw [h]
      exact leads_givesUp .load hu hdl
  cases hr : s.table.find? code with
  | none =>
    exact refused (Catalogue.Table.findActive_of_none hr)
      (hc ▸ Revision.effect_of_current_error (Command.current_of_none ht hr))
  | some row =>
    cases hs : row.status with
    | deleted =>
      exact refused (Catalogue.Table.findActive_of_deleted hr hs)
        (hc ▸ Revision.effect_of_current_error (Command.current_of_deleted ht hr hs))
    | active =>
      have hcode := Catalogue.Table.code_of_find? hr
      have heff := Revision.effect_of_active rev expected ht hr hs (htidy _ _ hr).1
      rw [← hc] at heff
      have hreply : s.table.reply (.findActive code) = (.ok row, s.table) := by
        rw [Catalogue.Table.reply, Catalogue.Table.findActive_of_active hr hs]
      rcases advance_granted hreply rest with h | ⟨hdl, h | h⟩
      · rw [h]
        -- the operation is applied at once to the row that was read
        show Leads channel job s _ ((Work.ofFabric (rev.operation row expected)).andThen _, s)
        cases hop : rev.operation row expected with
        | error e =>
          rw [hop] at heff
          exact leads_fails hu heff
        | ok f =>
          refine ⟨.writing row f, none, .writing hc ht hcode hop, ⟨row, hcode ▸ hr, Or.inl rfl⟩, ?_⟩
          exact .waits (Nat.lt_succ_self 2) (Nat.succ_pos 1)
      · rw [h]
        exact leads_givesUp .load hu hdl
      · rw [h]
        exact leads_givesUp .load hu hdl

theorem leads_writing {text expected} {rev : Revision} {code current f message}
    (hc : job.command = rev.command text expected) (ht : Code.ofString text = .ok code)
    (hcode : current.code = code) (hf : rev.operation current expected = .ok f)
    (hs : (Stage.writing current f).Sound s.table) (htidy : s.table.Tidy) :
    Leads channel job s (.writing current f) (advance channel timing
      ((write job.invocation rev.step (rev.request f) code expected).andThen fun _ =>
        job.finish channel message f) s) := by
  have hu : (Stage.writing current f).Undecided := Nat.succ_pos 1
  obtain ⟨hactive, hexpected, -, -⟩ := Revision.operation_eq_ok hf
  obtain ⟨row, hr, rfl | hlt⟩ := hs
  · -- the row is the one that was read
    have heff := Revision.effect_of_active rev expected ht (hcode ▸ hr)
      hactive (htidy _ _ hr).1
    rw [← hc, hf] at heff
    obtain ⟨a, ha⟩ := Revision.reply_granted hr (htidy _ _ hr).2 hf
    rcases advance_write_granted ha (fun _ => job.finish channel message f) with h | ⟨hdl, h | h⟩
    · rw [h]
      exact ⟨_, _, .recording, trivial, .writes hu heff⟩
    · rw [h]
      exact leads_givesUp rev.step hu hdl
    · rw [h]
      refine ⟨_, _, .ended .done, trivial, .writesUnheard hu hdl heff ?_⟩
      cases rev
      · exact Or.inr (Or.inl rfl)
      · exact Or.inr (Or.inr rfl)
  · -- the row has moved on
    have hmiss := Revision.reply_missed hr hlt hf
    rcases advance_write_missed hmiss (fun _ => job.finish channel message f) with h | ⟨hdl, h⟩
    · rw [h]
      refine ⟨.reloading code expected, none, .reloading hc ht, ⟨row, hcode ▸ hr, ?_⟩,
        .waits (Nat.lt_succ_self 1) (Nat.succ_pos 0)⟩
      omega
    · rw [h]
      exact leads_givesUp rev.step hu hdl

theorem leads_reloading {text expected} {rev : Revision} {code} {after : Unit → Work Outcome}
    (hc : job.command = rev.command text expected) (ht : Code.ofString text = .ok code)
    (hs : (Stage.reloading code expected).Sound s.table) :
    Leads channel job s (.reloading code expected) (advance channel timing
      ((missedWrite job.invocation code expected).andThen after) s) := by
  have hu : (Stage.reloading code expected).Undecided := Nat.succ_pos 0
  obtain ⟨row, hr, hlt⟩ := hs
  unfold missedWrite
  rw [Work.andThen_assoc]
  have hreply : s.table.reply (.findAny code) = (.ok row, s.table) := by
    simp [Catalogue.Table.reply, Catalogue.Table.findAny, hr]
  rcases advance_granted (i := job.invocation) hreply (fun current : Fabric =>
      (if current.isActive && current.version != expected then
        Work.fail (.concurrencyConflict code expected)
      else Work.fail (.notFound code)).andThen after) with h | ⟨hdl, h | h⟩
  · rw [h]
    cases hstatus : row.status with
    | active =>
      have hmoved := Command.current_of_moved ht hr hstatus (Nat.ne_of_lt hlt)
      have : row.isActive && row.version != expected := by
        simp [Fabric.isActive, hstatus]
        omega
      rw [if_pos this]
      exact leads_fails hu (hc ▸ Revision.effect_of_current_error hmoved)
    | deleted =>
      rw [if_neg (by simp [Fabric.isActive, hstatus])]
      exact leads_fails hu
        (hc ▸ Revision.effect_of_current_error (Command.current_of_deleted ht hr hstatus))
  · rw [h]
    exact leads_givesUp .reload hu hdl
  · rw [h]
    exact leads_givesUp .reload hu hdl

/-! ### After the write -/

/-- What is left when the result is certain: it asks nothing but to hand over the envelopes. -/
theorem endsIn_publishAll {r : Except CommandError Outcome} {rest : List Envelope}
    {next : Unit → Work Outcome} (h : EndsIn channel r [] (next ())) :
    EndsIn channel r rest ((Command.publishAll channel.subject rest).bind next) := by
  induction rest with
  | nil => exact h
  | cons e rest ih =>
    refine .publish fun a => ?_
    cases a with
    | ok _ => exact ih
    | error _ => exact .remark ih

/-- What the ledger replies to the envelopes of a fabric, and what then becomes of the command. -/
theorem finish_heard (channel : Channel) (job : Job) (message : String) (f : Fabric) :
    ∃ next : Option (Except Trail.Error Unit) → Work Outcome,
      job.finish channel message f = .ask (.append (job.batch f) job.invocation.deadline) next ∧
      EndsIn channel (.ok ⟨f.settled, job.batch f⟩)
        (if job.invocation.publishes then job.batch f else []) (next (some (.ok ()))) ∧
      (∀ e, EndsIn channel (.error (.eventsNotRecorded f.code f.version e.message e.isConflict)) []
        (next (some (.error e)))) ∧
      EndsIn channel (.error (.eventsNotRecorded f.code f.version "deadline exceeded" false)) []
        (next none) := by
  refine ⟨_, rfl, ?_, ?_, ?_⟩
  · cases hp : job.invocation.publishes with
    | false => exact .remark (.remark .done)
    | true =>
      show EndsIn channel _ (job.batch f)
        (((Command.publishAll channel.subject (job.batch f)).bind _).bind _)
      rw [Dialogue.bind_assoc]
      refine endsIn_publishAll ?_
      exact .remark (.remark .done)
  · intro e
    exact .remark .done
  · exact .remark .done

theorem leads_recording {f : Fabric} {message : String} :
    Leads channel job s (.recording f)
      (advance channel timing (job.finish channel message f) s) := by
  obtain ⟨next, hnext, hok, herror, hnone⟩ := finish_heard channel job message f
  rw [hnext]
  have hadv : advance channel timing (.ask (.append (job.batch f) job.invocation.deadline) next) s =
      (next (timing.within job.invocation.deadline (Stores.askLedger (job.batch f)) s).1,
        (timing.within job.invocation.deadline (Stores.askLedger (job.batch f)) s).2) := rfl
  rw [hadv]
  cases hr : (s.ledger.append (job.batch f)).1 with
  | ok _ =>
    have hask : Stores.askLedger (job.batch f) s = (.ok (), s.record (job.batch f)) :=
      Prod.ext hr rfl
    rcases timing.within_cases job.invocation.deadline (Stores.askLedger (job.batch f)) s
      with h | ⟨hd, h | h⟩
    · rw [h, hask]
      exact ⟨_, _, .ended hok, trivial, .records hr⟩
    · rw [h]
      exact ⟨_, _, .ended hnone, trivial, .givesUpRecording hd⟩
    · rw [h, hask]
      exact ⟨_, _, .ended hnone, trivial, .recordsUnheard hd hr⟩
  | error e =>
    have hask : Stores.askLedger (job.batch f) s = (.error e, s) :=
      Prod.ext hr (by simp [Stores.askLedger, Trail.Ledger.append_of_error hr])
    rcases timing.within_cases job.invocation.deadline (Stores.askLedger (job.batch f)) s
      with h | ⟨hd, h | h⟩
    · rw [h, hask]
      exact ⟨_, _, .ended (herror e), trivial, .rejected hr⟩
    · rw [h]
      exact ⟨_, _, .ended hnone, trivial, .givesUpRecording hd⟩
    · rw [h, hask]
      exact ⟨_, _, .ended hnone, trivial, .givesUpRecording hd⟩

theorem leads_ended {r : Except CommandError Outcome} {rest : List Envelope} {w : Work Outcome}
    (h : EndsIn channel r rest w) :
    Leads channel job s (.ended r rest) (advance channel timing w s) := by
  induction h with
  | done => exact ⟨_, _, .ended .done, trivial, .rests⟩
  | remark _ ih => exact ih
  | publish h _ => exact ⟨_, _, .ended (h _), trivial, .publishes⟩

/-- **One answered request is progress.** At a stage that is sound for the table, the answer leads
to a stage that is sound for the table after it. -/
theorem progress (timing : Timing) {st : Stage} {w : Work Outcome} (hst : Stands channel job st w)
    (hs : st.Sound s.table) (ht : s.table.Tidy) :
    Leads channel job s st (advance channel timing w s) := by
  cases hst with
  | saving hc hf => exact leads_saving hc hf ht
  | loading hc hcode => exact leads_loading hc hcode ht
  | writing hc hcode heq hf => exact leads_writing hc hcode heq hf hs ht
  | reloading hc hcode => exact leads_reloading hc hcode hs
  | recording => exact leads_recording
  | ended h => exact leads_ended h

end FabricRegistry.Traffic
