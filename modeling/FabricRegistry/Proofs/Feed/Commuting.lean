import FabricRegistry.Proofs.Feed.Redelivery

/-!
Orders on different codes. An order looks at the row of its code and at no other, and it leaves that
row and envelopes of that aggregate; so two orders on different codes, one after the other, come to
the same in both orders of bringing them (`orders_commute`). The list of all envelopes does depend
on it, and so does what is handed to the channel, so stores are compared by what can be asked of
them: the row of a code and the trail of an aggregate.

In another run an order gets other stamps, and a message comes at another moment (`Order.again`), so
results and trails are compared without identities and times.
-/

namespace FabricRegistry

/-! ### Trails without identities and times -/

namespace Trail.Ledger

theorem map_bare_insertByVersion (e : Envelope) (sorted : List Envelope) :
    (insertByVersion e sorted).map Envelope.bare =
      insertByVersion e.bare (sorted.map Envelope.bare) := by
  induction sorted with
  | nil => rfl
  | cons d rest ih =>
    simp only [insertByVersion, List.map_cons]
    rw [apply_ite (List.map Envelope.bare), List.map_cons, List.map_cons, List.map_cons, ih]
    rfl

theorem map_bare_eventsOf (l : Ledger) (id : String) :
    (l.eventsOf id).map Envelope.bare =
      ((l.events.filter fun e => e.aggregateId = id).map Envelope.bare).foldl
        (fun sorted e => insertByVersion e sorted) [] := by
  have hfold : ∀ events sorted : List Envelope,
      (events.foldl (fun sorted e => insertByVersion e sorted) sorted).map Envelope.bare =
        (events.map Envelope.bare).foldl (fun sorted e => insertByVersion e sorted)
          (sorted.map Envelope.bare) := by
    intro events
    induction events with
    | nil => exact fun _ => rfl
    | cons e rest ih =>
      intro sorted
      rw [List.foldl_cons, ih, map_bare_insertByVersion]
      rfl
  exact hfold _ []

end Trail.Ledger

namespace Traffic

open Command (effect)
open Inbound (Feed Notice)

variable {channel : Channel} {t : Catalogue.Table} {s : Stores} {job job' : Job} {o a b : Order}

/-! ### One order at a time -/

namespace Order

/-- the code that an order names, which need not be a valid one; none for a message that cannot be
read -/
def code? : Order → Option String
  | .command job => some job.command.codeText
  | .message n => (Notice.ofBytes? n.message.payload).map Notice.code

/-- Two orders do not name the same code. -/
def Apart (a b : Order) : Prop := ∀ text, a.code? = some text → b.code? ≠ some text

/-- the order brought in another run, a message at another moment -/
def again (moment : Instant) (stamps : ℕ → Stamp) : Order → Order
  | .command job => .command (job.withStamps stamps)
  | .message n => .message { n with now := moment, stamps }

/-- the ending that goes with the result of the command of an order, a message being acknowledged -/
def ending (r : Except CommandError Outcome) : Order → Ending
  | .command _ => .result r
  | .message _ => .handled (.ok ())

end Order

def Ending.bare : Ending → Ending
  | .result r => .result (r.map Outcome.bare)
  | .handled h => .handled h

/-- what an order comes to with nobody else at work, its requests answered in time, and the stores
after it -/
def Stores.carryOut (channel : Channel) (o : Order) (s : Stores) : Ending × Stores :=
  inTime channel (o.work channel) s

/-- Stores answer the same to whoever asks for a row or for a trail, but for identities and
times. -/
structure Stores.Agree (s s' : Stores) : Prop where
  row : ∀ code, s.table.find? code = s'.table.find? code
  trail : ∀ id, (s.ledger.eventsOf id).map Envelope.bare = (s'.ledger.eventsOf id).map Envelope.bare

theorem Stores.carryOut_eq (hs : s.Orderly) (o : Order) :
    s.carryOut channel o =
      (o.ending (s.decide channel o.job).1, (s.decide channel o.job).2) := by
  cases o with
  | command job =>
    have halone : inTime channel (job.work channel) s = s.decide channel job :=
      Stores.alone_eq_decide channel job hs
    rw [Stores.carryOut, Order.work, inTime_bind, halone]
    rfl
  | message n =>
    have hhandle : inTime channel (n.work channel) s = (.ok (), (s.decide channel n.job).2) :=
      Stores.handle_eq channel n hs
    rw [Stores.carryOut, Order.work, inTime_bind, hhandle]
    rfl

/-- the decision of a command on a table, as of the first client -/
def Job.decision (job : Job) (t : Catalogue.Table) : Decision := ⟨0, job, effect t job.command⟩

theorem Stores.result_decide (s : Stores) (job : Job) :
    (s.decide channel job).1 = (job.decision s.table).result := by
  unfold Stores.decide Decision.result Job.decision
  cases effect s.table job.command <;> rfl

theorem Stores.table_decide (s : Stores) (job : Job) :
    (s.decide channel job).2.table = s.table.settle (effect s.table job.command) := by
  unfold Stores.decide
  cases effect s.table job.command <;> rfl

theorem Stores.events_decide (s : Stores) (job : Job) :
    (s.decide channel job).2.ledger.events = s.ledger.events ++ (job.decision s.table).batch := by
  unfold Stores.decide Decision.batch Job.decision
  cases effect s.table job.command with
  | ok f => rfl
  | error e => exact (List.append_nil _).symm

/-! ### In another run -/

theorem Job.Same.decision (h : job.Same job') (t : Catalogue.Table) :
    (job.decision t).Same (job'.decision t) :=
  ⟨h, congrArg (effect t) h.command⟩

theorem Order.same_again (o : Order) (moment : Instant) (stamps : ℕ → Stamp) :
    o.job.Same (o.again moment stamps).job := by
  cases o with
  | command job => exact ⟨rfl, rfl⟩
  | message n =>
    cases h : n.feed.instruction n.now n.message.payload with
    | ok i =>
      obtain ⟨i', h', hcommand, hprovenance⟩ := Feed.instruction_at h moment
      simp only [Order.again, Order.job, Intake.job, h, h']
      exact ⟨hcommand, hprovenance⟩
    | error reason =>
      obtain ⟨reason', h'⟩ := Feed.dropped_at h moment
      simp only [Order.again, Order.job, Intake.job, h, h']
      exact ⟨rfl, rfl⟩

theorem Order.bare_ending_again (o : Order) (moment : Instant) (stamps : ℕ → Stamp)
    {r r' : Except CommandError Outcome} (h : r'.map Outcome.bare = r.map Outcome.bare) :
    ((o.again moment stamps).ending r').bare = (o.ending r).bare := by
  cases o with
  | command job => exact congrArg Ending.result h
  | message n => rfl

/-! ### The frame of an order -/

/-- Commands do not name the same valid code. -/
def Job.Apart (job job' : Job) : Prop := ∀ code, Code.ofString job.command.codeText = .ok code →
  Code.ofString job'.command.codeText ≠ .ok code

theorem Job.Apart.symm (h : job.Apart job') : job'.Apart job := fun code h' h'' => h code h'' h'

/-- The command of an order names the code that the order names, if it names a valid code at all. -/
theorem Order.code?_of_job {code : Code} (h : Code.ofString o.job.command.codeText = .ok code) :
    o.code? = some code.text := by
  have htext := Code.text_of_ofString h
  cases o with
  | command job => exact congrArg some htext.symm
  | message n =>
    cases hi : n.feed.instruction n.now n.message.payload with
    | error reason =>
      simp only [Order.job, Intake.job, hi] at h
      cases h
    | ok i =>
      obtain ⟨x, hx, hv, -, hc⟩ := Feed.exists_notice hi
      have hcode : i.command.codeText = x.code := Feed.codeText_of_command hc
      simp only [Order.job, Intake.job_of_instruction hi, hcode] at htext
      rw [Order.code?, hx, htext]
      rfl

theorem Order.Apart.jobs (h : a.Apart b) : a.job.Apart b.job := fun _ ha hb =>
  h _ (Order.code?_of_job ha) (Order.code?_of_job hb)

/-- **A command leaves the rows of other codes as they are.** -/
theorem find?_settle_of_ne {code : Code} {c : Command}
    (h : Code.ofString c.codeText ≠ .ok code) :
    (t.settle (effect t c)).find? code = t.find? code := by
  cases he : effect t c with
  | error e => rfl
  | ok f =>
    refine Catalogue.Table.find?_put_of_ne fun hcode => h ?_
    rw [Command.code_of_effect he]
    exact congrArg Except.ok hcode

namespace Job.Apart

/-- **A command does not notice one on another code before it.** -/
theorem effect_settle (h : job.Apart job') :
    effect (t.settle (effect t job.command)) job'.command = effect t job'.command :=
  Command.effect_congr fun code h' => find?_settle_of_ne fun h'' => h code h'' h'

/-- The rows after two commands on different codes. -/
theorem find?_settle (h : job.Apart job') (code : Code) :
    ((t.settle (effect t job.command)).settle (effect t job'.command)).find? code =
      ((t.settle (effect t job'.command)).settle (effect t job.command)).find? code := by
  cases he : effect t job.command with
  | error e => rfl
  | ok f =>
    cases he' : effect t job'.command with
    | error e => rfl
    | ok f' =>
      have hne : f.code ≠ f'.code := fun hcode =>
        h _ (Command.code_of_effect he) (hcode ▸ Command.code_of_effect he')
      simp only [Catalogue.Table.settle_ok, Catalogue.Table.find?_put, Fabric.settled_code]
      split_ifs with h₁ h₂ <;> simp_all

/-- The envelopes that two commands on different codes leave of one aggregate come of one of the two
at most, so it does not matter which is first. -/
theorem filter_batch (h : job.Apart job') (t : Catalogue.Table) (id : String) :
    ((job.decision t).batch ++ (job'.decision t).batch).filter (fun e => e.aggregateId = id) =
      ((job'.decision t).batch ++ (job.decision t).batch).filter fun e => e.aggregateId = id := by
  cases he : effect t job.command with
  | error e => simp [Decision.batch, Job.decision, he]
  | ok f =>
    cases he' : effect t job'.command with
    | error e => simp [Decision.batch, Job.decision, he']
    | ok f' =>
      obtain ⟨x, -, hcode, -, hbatch⟩ := job.batch_of_effect he
      obtain ⟨x', -, hcode', -, hbatch'⟩ := job'.batch_of_effect he'
      have hne : x.code.text ≠ x'.code.text := fun htext => by
        have hsame := Code.text_injective htext
        rw [hcode, hcode'] at hsame
        exact h _ (Command.code_of_effect he) (hsame ▸ Command.code_of_effect he')
      simp only [Decision.batch, Job.decision, he, he', List.filter_append]
      have hnone : (job.batch f).filter (fun e => e.aggregateId = id) = [] ∨
          (job'.batch f').filter (fun e => e.aggregateId = id) = [] := by
        rw [hbatch, hbatch']
        by_cases hid : x.code.text = id
        · exact Or.inr (by simpa [hid] using hid ▸ hne.symm)
        · exact Or.inl (by simpa using hid)
      rcases hnone with hnil | hnil <;> simp only [hnil, List.nil_append, List.append_nil]

end Job.Apart

/-! ### Two orders -/

/-- Two orders on different codes come to what each comes to alone. -/
theorem Stores.carryOut_two (channel : Channel) (hs : s.Orderly) (h : a.job.Apart b.job) :
    let first := s.carryOut channel a
    let second := first.2.carryOut channel b
    first.1 = a.ending (a.job.decision s.table).result ∧
    second.1 = b.ending (b.job.decision s.table).result ∧
    second.2.table = (s.table.settle (effect s.table a.job.command)).settle
      (effect s.table b.job.command) ∧
    second.2.ledger.events =
      s.ledger.events ++ (a.job.decision s.table).batch ++ (b.job.decision s.table).batch := by
  intro first second
  have hfirst : first = (a.ending (s.decide channel a.job).1, (s.decide channel a.job).2) :=
    Stores.carryOut_eq hs a
  have htable : first.2.table = s.table.settle (effect s.table a.job.command) := by
    rw [hfirst, Stores.table_decide]
  have hevents : first.2.ledger.events =
      s.ledger.events ++ (a.job.decision s.table).batch := by
    rw [hfirst, Stores.events_decide]
  have hsecond : second =
      (b.ending (first.2.decide channel b.job).1, (first.2.decide channel b.job).2) :=
    Stores.carryOut_eq (by rw [hfirst]; exact hs.decide channel a.job) b
  have hdecision : b.job.decision first.2.table = b.job.decision s.table := by
    rw [htable, Job.decision, h.effect_settle, Job.decision]
  refine ⟨by rw [hfirst, Stores.result_decide], ?_, ?_, ?_⟩
  · rw [hsecond, Stores.result_decide, hdecision]
  · rw [hsecond, Stores.table_decide, htable, h.effect_settle]
  · rw [hsecond, Stores.events_decide, hdecision, hevents]

/-- **Orders on different codes commute.** Let commands and messages be at work at the same time, in
any schedule and with any deadlines, and bring two orders that do not name the same code to the
stores that they leave, one after the other and answered in time. Each has the same ending as in a
run in which the other comes first, and the stores after them answer the same to whoever asks for
the row of a code or for the trail of an aggregate, but for identities and times. -/
theorem orders_commute (channel : Channel) (σ : List Mixed.Action) (h : a.Apart b)
    (moment moment' : Instant) (stamps stamps' : ℕ → Stamp) :
    let s := (Mixed.run channel σ).stores
    let first := s.carryOut channel a
    let second := first.2.carryOut channel b
    let second' := s.carryOut channel (b.again moment stamps)
    let first' := second'.2.carryOut channel (a.again moment' stamps')
    first'.1.bare = first.1.bare ∧ second'.1.bare = second.1.bare ∧ first'.2.Agree second.2 := by
  intro s first second second' first'
  have hs : s.Orderly := Mixed.orderly_run channel σ
  have ha := a.same_again moment' stamps'
  have hb := b.same_again moment stamps
  have hjobs' : (b.again moment stamps).job.Apart (a.again moment' stamps').job := by
    unfold Job.Apart
    rw [ha.command, hb.command]
    exact h.jobs.symm
  obtain ⟨hfirst, hsecond, htable, hevents⟩ := Stores.carryOut_two channel hs h.jobs
  obtain ⟨hsecond', hfirst', htable', hevents'⟩ := Stores.carryOut_two channel hs hjobs'
  have hadecision := ha.decision s.table
  have hbdecision := hb.decision s.table
  refine ⟨?_, ?_, fun code => ?_, fun id => ?_⟩
  · exact hfirst' ▸ hfirst ▸ a.bare_ending_again moment' stamps' hadecision.map_bare_result
  · exact hsecond' ▸ hsecond ▸ b.bare_ending_again moment stamps hbdecision.map_bare_result
  · rw [htable, htable', ha.command, hb.command]
    exact h.jobs.symm.find?_settle code
  · have hswap := congrArg (List.map Envelope.bare) (h.jobs.filter_batch s.table id)
    rw [Trail.Ledger.map_bare_eventsOf, Trail.Ledger.map_bare_eventsOf, hevents, hevents']
    congr 1
    simp only [map_bare_filter, List.map_append, List.filter_append, List.append_assoc,
      hadecision.map_bare_batch, hbdecision.map_bare_batch] at hswap ⊢
    rw [hswap]

/-- the message of the creation of a linen -/
def linenOrder : Order := .message (.ofPayload Notice.linenCreated)

/-- a caller's creation of a cotton -/
def cottonOrder : Order := .command (.ofCommand (.create "CO10" ⟨"Cotton", "m", "NEW"⟩))

theorem apart_linenOrder : linenOrder.Apart cottonOrder := by
  obtain ⟨x, hx, -, hcode, -, -⟩ := exists_linenCreated
  have hlinen : linenOrder.code? = some "LN100" := by
    rw [← hcode]
    exact congrArg (Option.map Notice.code) hx
  intro text h h'
  rw [← h, hlinen] at h'
  exact absurd (Option.some.inj h') (by decide)

/-- The creation of the deleted linen, delivered once more, and the creation of a cotton. -/
theorem orders_commute_deletedLinen :
    linenOrder.Apart cottonOrder ∧
    let s := (Mixed.run .silent deletedLinen).stores
    let first := s.carryOut .silent linenOrder
    let second := first.2.carryOut .silent cottonOrder
    let second' := s.carryOut .silent (cottonOrder.again 0 default)
    let first' := second'.2.carryOut .silent (linenOrder.again 60 default)
    first'.1.bare = first.1.bare ∧ second'.1.bare = second.1.bare ∧ first'.2.Agree second.2 :=
  ⟨apart_linenOrder, orders_commute .silent deletedLinen apart_linenOrder 0 60 default default⟩

end Traffic

end FabricRegistry
