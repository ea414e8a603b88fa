import FabricRegistry.Proofs.Feed.Notice
import FabricRegistry.Proofs.Traffic.Linear

/-!
Messages of the ERP feed among the commands of callers. A message that is delivered is at work on
the same table and ledger as the commands, request by request, and every delivery is a party of its
own, so the same message may be at work many times at once.

What a message has set off is the work of one command and then a few remarks. So a schedule with
messages has the stores of the schedule in which each message is replaced by its command
(`shadows`), and whatever is known of commands at work holds with messages among them.
-/

namespace FabricRegistry.Traffic

open Command (Reply Work effect)
open Inbound (Feed Handled Instruction Message Notice)

/-! ### A message on the service -/

/-- a message that is delivered to a feed, with the moment and the stamps for what it sets off -/
structure Intake where
  feed : Feed
  now : Instant
  message : Message
  stamps : ℕ → Stamp

namespace Intake

/-- a message that is delivered to a feed with the usual settings -/
def ofPayload (payload : ByteArray) : Intake :=
  ⟨{}, 0, ⟨"erp.fabric", payload⟩, fun _ => default⟩

/-- the performance of an instruction on the service -/
def perform (channel : Channel) (n : Intake) (i : Instruction) : Work Outcome :=
  i.command.perform channel.subject n.stamps i.invocation

/-- the handling of a message on the service -/
def work (channel : Channel) (n : Intake) : Dialogue Reply Handled :=
  (n.feed.handle n.now n.message).expand (n.perform channel)

/-- the command that a message becomes, or one that fails at once for a message that becomes none -/
def job (n : Intake) : Job :=
  match n.feed.instruction n.now n.message.payload with
  | .ok i => ⟨i.command, i.invocation, n.stamps⟩
  | .error _ => .ofCommand (.delete "" 0)

end Intake

/-! ### Schedules with messages -/

/-- what is brought to the service -/
inductive Order where
  | command (job : Job)
  | message (n : Intake)

/-- what an order comes to: the result for a caller, the acknowledgement for the feed -/
inductive Ending where
  | result (r : Except CommandError Outcome)
  | handled (h : Handled)

namespace Order

def work (channel : Channel) : Order → Dialogue Reply Ending
  | .command job => (job.work channel).bind fun r => .done (.result r)
  | .message n => (n.work channel).bind fun h => .done (.handled h)

def job : Order → Job
  | .command job => job
  | .message n => n.job

end Order

/-- an order that was brought, and what is left of its work -/
structure Party where
  order : Order
  work : Dialogue Reply Ending

/-- the ending of work that has nothing left to ask -/
def ending? : Dialogue Reply Ending → Option Ending
  | .done a => some a
  | .remark _ rest => ending? rest
  | .ask _ _ => none

/-- The next request of a party answered, remarks before it passed over. -/
def goOn (channel : Channel) (timing : Timing) :
    Dialogue Reply Ending → Stores → Dialogue Reply Ending × Stores
  | .done a, s => (.done a, s)
  | .remark _ rest, s => goOn channel timing rest s
  | .ask q next, s => (next (s.reply channel timing q).1, (s.reply channel timing q).2)

namespace Mixed

/-- the stores and the parties, numbered in the order in which their orders were brought -/
structure State where
  stores : Stores
  parties : List Party

/-- what can happen next -/
inductive Action where
  /-- an order is brought -/
  | bring (order : Order)
  /-- the next request of a party is answered -/
  | move (party : ℕ) (timing : Timing)

def State.step (channel : Channel) (s : State) : Action → State
  | .bring order => { s with parties := s.parties ++ [⟨order, order.work channel⟩] }
  | .move k timing =>
    match s.parties[k]? with
    | none => s
    | some p =>
      { stores := (goOn channel timing p.work s.stores).2
        parties := s.parties.set k ⟨p.order, (goOn channel timing p.work s.stores).1⟩ }

/-- the state after a schedule, from empty stores -/
def run (channel : Channel) (schedule : List Action) : State :=
  schedule.foldl (State.step channel) ⟨.empty, []⟩

theorem run_append_singleton (channel : Channel) (schedule : List Action) (a : Action) :
    run channel (schedule ++ [a]) = (run channel schedule).step channel a := by
  simp [run]

/-- In a schedule, party `k` has a request answered after `before`. -/
def Moves (schedule : List Action) (k : ℕ) (before : List Action) (timing : Timing) : Prop :=
  before ++ [.move k timing] <+: schedule

/-- In a schedule, an answered request of party `k` changes the table. -/
def Changes (channel : Channel) (schedule : List Action) (k : ℕ) (before : List Action)
    (timing : Timing) : Prop :=
  Moves schedule k before timing ∧
    (run channel (before ++ [.move k timing])).stores.table ≠ (run channel before).stores.table

/-- the action of commands that an action of parties goes along with -/
def Action.shadow : Action → Traffic.Action
  | .bring order => .start order.job
  | .move k timing => .move k timing

end Mixed

/-! ### Along with a command -/

/-- Work that goes along with the work of a command: it has the same requests, and after them
nothing but remarks. -/
inductive Along : Work Outcome → Dialogue Reply Ending → Prop where
  | same {w f} (hf : ∀ r, (ending? (f r)).isSome) : Along w (w.bind f)
  | ended {w d} (hw : (result? w).isSome) (hd : (ending? d).isSome) : Along w d

variable {w : Work Outcome} {d : Dialogue Reply Ending} {n : Intake} {i : Instruction}
  {reason : String}

theorem advance_of_result (channel : Channel) (timing : Timing) (s : Stores)
    (h : (result? w).isSome) : ∃ r, advance channel timing w s = (.done r, s) := by
  induction w with
  | done r => exact ⟨r, rfl⟩
  | remark m rest ih => exact ih h
  | ask q next _ => cases h

theorem goOn_of_ending (channel : Channel) (timing : Timing) (s : Stores)
    (h : (ending? d).isSome) : ∃ a, goOn channel timing d s = (.done a, s) := by
  induction d with
  | done a => exact ⟨a, rfl⟩
  | remark m rest ih => exact ih h
  | ask q next _ => cases h

/-- **Work that goes along goes on along.** -/
theorem Along.goOn (h : Along w d) (channel : Channel) (timing : Timing) (s : Stores) :
    (goOn channel timing d s).2 = (advance channel timing w s).2 ∧
      Along (advance channel timing w s).1 (goOn channel timing d s).1 := by
  cases h with
  | @same f hf =>
    induction w with
    | done r =>
      -- the command has its result, and what is made of a result asks nothing
      obtain ⟨a, ha⟩ := goOn_of_ending channel timing s (hf r)
      show (Traffic.goOn channel timing (f r) s).2 = s ∧
        Along (.done r) (Traffic.goOn channel timing (f r) s).1
      rw [ha]
      exact ⟨rfl, .ended rfl rfl⟩
    | remark m rest ih => exact ih
    | ask q next _ => exact ⟨rfl, .same hf⟩
  | ended hw hd =>
    obtain ⟨r, hr⟩ := advance_of_result channel timing s hw
    obtain ⟨a, ha⟩ := goOn_of_ending channel timing s hd
    rw [hr, ha]
    exact ⟨rfl, .ended rfl rfl⟩

/-! ### What a message sets off -/

namespace Intake

theorem job_of_instruction (h : n.feed.instruction n.now n.message.payload = .ok i) :
    n.job = ⟨i.command, i.invocation, n.stamps⟩ := by
  simp [job, h]

theorem command_of_notice {x : Notice} {c : Command}
    (hx : Notice.ofBytes? n.message.payload = some x) (hv : x.envelope.validate = .ok ())
    (hc : n.feed.command x.version x.operation x.announcement = .ok c) : n.job.command = c := by
  have hi := Feed.instruction_of_notice n.feed n.now hx hv
  rw [hc] at hi
  rw [job_of_instruction hi]

/-- A message that becomes an instruction is its command, and then what is made of the result. -/
theorem work_of_instruction (channel : Channel)
    (h : n.feed.instruction n.now n.message.payload = .ok i) :
    n.work channel = (n.job.work channel).bind fun r =>
      (Feed.settle r).expand (n.perform channel) := by
  rw [work, Feed.handle, h, job_of_instruction h]
  rfl

theorem work_of_dropped (channel : Channel)
    (h : n.feed.instruction n.now n.message.payload = .error reason) :
    n.work channel = .remark ⟨.warn, reason⟩ (.done (.ok ())) := by
  rw [work, Feed.handle, h]
  rfl

/-- The command of a message that becomes none breaks a rule, so it is over at once. -/
theorem result_of_dropped (channel : Channel)
    (h : n.feed.instruction n.now n.message.payload = .error reason) :
    (result? (n.job.work channel)).isSome := by
  simp only [job, h]
  rfl

theorem effect_of_dropped (h : n.feed.instruction n.now n.message.payload = .error reason)
    (t : Catalogue.Table) : ∃ e, effect t n.job.command = .error e := by
  simp only [job, h]
  exact ⟨_, rfl⟩

theorem exists_instruction {t : Catalogue.Table} {f : Fabric}
    (h : effect t n.job.command = .ok f) :
    ∃ i, n.feed.instruction n.now n.message.payload = .ok i := by
  cases hi : n.feed.instruction n.now n.message.payload with
  | ok i => exact ⟨i, rfl⟩
  | error reason =>
    obtain ⟨e, he⟩ := effect_of_dropped hi t
    rw [h] at he
    cases he

/-- Nothing that a message writes is published. -/
theorem publishes_of_effect {t : Catalogue.Table} {f : Fabric}
    (h : effect t n.job.command = .ok f) : n.job.invocation.publishes = false := by
  obtain ⟨i, hi⟩ := exists_instruction h
  obtain ⟨x, -, -, hinvocation, -⟩ := Feed.exists_notice hi
  rw [job_of_instruction hi]
  show i.invocation.publishes = false
  rw [hinvocation, Invocation.publishes, Feed.invocation_source]
  rfl

end Intake

/-- **An order goes along with its command.** -/
theorem Order.along (channel : Channel) (order : Order) :
    Along (order.job.work channel) (order.work channel) := by
  cases order with
  | command job => exact .same fun _ => rfl
  | message n =>
    cases h : n.feed.instruction n.now n.message.payload with
    | ok i =>
      rw [work, Intake.work_of_instruction channel h, Dialogue.bind_assoc]
      refine .same fun r => ?_
      obtain ⟨m, hm⟩ := Feed.exists_remark r
      rw [hm]
      rfl
    | error reason =>
      rw [work, Intake.work_of_dropped channel h]
      exact .ended (Intake.result_of_dropped channel h) rfl

/-! ### The schedule of the commands -/

/-- Parties stand as clients do: the stores are the same, and each party goes along with the client
of its number, which has its command. -/
structure Shadows (m : Mixed.State) (s : State) : Prop where
  stores_eq : m.stores = s.stores
  length_eq : m.parties.length = s.clients.length
  along : ∀ (k : ℕ) (p : Party) (c : Client), m.parties[k]? = some p → s.clients[k]? = some c →
    c.job = p.order.job ∧ Along c.work p.work

namespace Shadows

variable {m : Mixed.State} {s : State}

theorem exists_client (h : Shadows m s) {k : ℕ} {p : Party} (hp : m.parties[k]? = some p) :
    ∃ c, s.clients[k]? = some c ∧ c.job = p.order.job ∧ Along c.work p.work := by
  have hlt := (List.getElem?_eq_some_iff.mp hp).1
  rw [h.length_eq] at hlt
  have hc := List.getElem?_eq_getElem hlt
  exact ⟨_, hc, h.along k p _ hp hc⟩

theorem bring (h : Shadows m s) (channel : Channel) (order : Order) :
    Shadows (m.step channel (.bring order)) (s.step channel (.start order.job)) := by
  refine ⟨h.stores_eq, by simp [Mixed.State.step, State.step, h.length_eq], ?_⟩
  intro k p c hp hc
  -- there are as many parties as clients, so the new ones have the same number
  simp only [Mixed.State.step, State.step, List.getElem?_append, List.getElem?_singleton,
    h.length_eq] at hp hc
  split at hp
  · next hlt =>
    rw [if_pos hlt] at hc
    exact h.along k p c hp hc
  · next hlt =>
    rw [if_neg hlt] at hc
    split at hp
    · next hk =>
      rw [if_pos hk] at hc
      cases hp
      cases hc
      exact ⟨rfl, order.along channel⟩
    · cases hp

theorem move (h : Shadows m s) (channel : Channel) (k : ℕ) (timing : Timing) :
    Shadows (m.step channel (.move k timing)) (s.step channel (.move k timing)) := by
  cases hp : m.parties[k]? with
  | none =>
    have hc : s.clients[k]? = none := by
      rw [List.getElem?_eq_none_iff, ← h.length_eq]
      exact List.getElem?_eq_none_iff.mp hp
    simpa only [Mixed.State.step, State.step, hp, hc] using h
  | some p =>
    obtain ⟨c, hc, hjob, halong⟩ := h.exists_client hp
    obtain ⟨hstores, hgoes⟩ := halong.goOn channel timing s.stores
    simp only [Mixed.State.step, State.step, hp, hc, h.stores_eq]
    refine ⟨hstores, by simp [h.length_eq], ?_⟩
    intro j p' c' hp' hc'
    -- the party that moves goes on along with its client, and all others are as they were
    simp only [List.getElem?_set, h.length_eq] at hp' hc'
    split at hp'
    · next hkj =>
      rw [if_pos hkj] at hc'
      split at hp'
      · next hlt =>
        rw [if_pos hlt] at hc'
        cases hp'
        cases hc'
        exact ⟨hjob, hgoes⟩
      · cases hp'
    · next hkj =>
      rw [if_neg hkj] at hc'
      exact h.along j p' c' hp' hc'

theorem step (h : Shadows m s) (channel : Channel) (a : Mixed.Action) :
    Shadows (m.step channel a) (s.step channel a.shadow) := by
  cases a with
  | bring order => exact h.bring channel order
  | move k timing => exact h.move channel k timing

end Shadows

/-- **Messages work as their commands do.** -/
theorem shadows (channel : Channel) (σ : List Mixed.Action) :
    Shadows (Mixed.run channel σ) (run channel (σ.map Mixed.Action.shadow)) := by
  induction σ using List.reverseRecOn with
  | nil => exact ⟨rfl, rfl, by simp [Mixed.run]⟩
  | append_singleton σ a ih =>
    rw [Mixed.run_append_singleton, List.map_append, List.map_singleton, run_append_singleton]
    exact ih.step channel a

namespace Mixed

variable {σ : List Action} {k : ℕ}

theorem run_stores (channel : Channel) (σ : List Action) :
    (run channel σ).stores = (Traffic.run channel (σ.map Action.shadow)).stores :=
  (shadows channel σ).stores_eq

theorem run_stores_move (channel : Channel) (σ : List Action) (k : ℕ) (timing : Timing) :
    (run channel (σ ++ [.move k timing])).stores =
      (Traffic.run channel (σ.map Action.shadow ++ [.move k timing])).stores := by
  rw [run_stores, List.map_append]
  rfl

/-- An action of a client comes of one of the party of its number. -/
theorem exists_moves {first : List Traffic.Action} {timing : Timing}
    (h : first ++ [.move k timing] <+: σ.map Action.shadow) :
    ∃ before, before.map Action.shadow = first ∧ Moves σ k before timing := by
  obtain ⟨τ, hτ, hmap⟩ := List.prefix_map_iff.mp h
  obtain ⟨before, last, rfl, rfl, hlast⟩ := List.map_eq_append_iff.mp hmap.symm
  obtain ⟨a, rest, rfl, ha, hrest⟩ := List.map_eq_cons_iff.mp hlast
  obtain rfl := List.map_eq_nil_iff.mp hrest
  cases a with
  | bring order => cases ha
  | move j timing' =>
    cases ha
    exact ⟨before, rfl, hτ⟩

/-- A client has the command of the party of its number, also of a later one. -/
theorem job_of_client {τ : List Action} {c : Client} {p : Party}
    (hc : (Traffic.run channel (σ.map Action.shadow)).clients[k]? = some c)
    (hp : (run channel (σ ++ τ)).parties[k]? = some p) : c.job = p.order.job := by
  obtain ⟨c', hc', hjob, -⟩ := (shadows channel (σ ++ τ)).exists_client hp
  rw [List.map_append] at hc'
  have hkeeps := clients_keep_jobs channel (σ.map Action.shadow) (τ.map Action.shadow)
  obtain ⟨hlt, rfl⟩ := List.getElem?_eq_some_iff.mp hc
  have hat := List.prefix_iff_getElem?.mp hkeeps k (by simpa using hlt)
  rw [List.getElem?_map, hc', List.getElem_map] at hat
  exact (Option.some.inj hat).symm.trans hjob

end Mixed

end FabricRegistry.Traffic
