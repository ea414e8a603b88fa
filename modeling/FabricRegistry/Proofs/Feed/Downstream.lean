import FabricRegistry.Proofs.Feed.Mixed
import FabricRegistry.Proofs.Traffic.Handing

/-!
Publication is downstream of the record and never feeds back. What the channel is handed is in the
ledger at that moment, is handed over once, and comes from a command whose caller waits. And
whatever the channel replies, the stores and all results are the same: two runs of one schedule
against two channels go the same way, request by request, and differ in remarks only.
-/

namespace FabricRegistry.Traffic

open Command (Reply Work bounded missedWrite write publishAll record notRecorded)
open Inbound (Feed)

/-! ### Work that does not heed the channel -/

/-- Two pieces of work that ask the same. They go on the same way after the same reply of storage,
and after any two replies of the channel. -/
inductive Heedless {α : Type} : Dialogue Reply α → Dialogue Reply α → Prop where
  | done (a : α) : Heedless (.done a) (.done a)
  | remark_left {m w w'} : Heedless w w' → Heedless (.remark m w) w'
  | remark_right {m w w'} : Heedless w w' → Heedless w (.remark m w')
  | catalogue {step request deadline next next'} : (∀ a, Heedless (next a) (next' a)) →
      Heedless (.ask (.catalogue step request deadline) next)
        (.ask (.catalogue step request deadline) next')
  | append {batch deadline next next'} : (∀ a, Heedless (next a) (next' a)) →
      Heedless (.ask (.append batch deadline) next) (.ask (.append batch deadline) next')
  | publish {subject e next next'} : (∀ a a', Heedless (next a) (next' a')) →
      Heedless (.ask (.publish subject e) next) (.ask (.publish subject e) next')

namespace Heedless

variable {α β : Type}

theorem remark {m m' : Remark} {w w' : Dialogue Reply α} (h : Heedless w w') :
    Heedless (.remark m w) (.remark m' w') :=
  .remark_left (.remark_right h)

theorem bind {w w' : Dialogue Reply α} {g g' : α → Dialogue Reply β} (h : Heedless w w')
    (hg : ∀ a, Heedless (g a) (g' a)) : Heedless (w.bind g) (w'.bind g') := by
  induction h with
  | done a => exact hg a
  | remark_left _ ih => exact .remark_left ih
  | remark_right _ ih => exact .remark_right ih
  | catalogue _ ih => exact .catalogue ih
  | append _ ih => exact .append ih
  | publish _ ih => exact .publish ih

theorem andThen {w w' : Work α} {g g' : α → Work β} (h : Heedless w w')
    (hg : ∀ a, Heedless (g a) (g' a)) : Heedless (w.andThen g) (w'.andThen g') := by
  refine h.bind fun r => ?_
  cases r with
  | ok a => exact hg a
  | error e => exact .done _

/-- **One answered request.** The stores after it are the same, whichever channel replies. -/
theorem goOn {d d' : Dialogue Reply Ending} (h : Heedless d d') (channel channel' : Channel)
    (timing : Timing) (s : Stores) :
    (goOn channel timing d s).2 = (goOn channel' timing d' s).2 ∧
      Heedless (Traffic.goOn channel timing d s).1 (Traffic.goOn channel' timing d' s).1 := by
  induction h with
  | done a => exact ⟨rfl, .done a⟩
  | remark_left _ ih => exact ih
  | remark_right _ ih => exact ih
  | catalogue h _ => exact ⟨rfl, h _⟩
  | append h _ => exact ⟨rfl, h _⟩
  | publish h _ => exact ⟨rfl, h _ _⟩

theorem ending?_eq {d d' : Dialogue Reply Ending} (h : Heedless d d') : ending? d = ending? d' := by
  induction h with
  | done a => rfl
  | remark_left _ ih => exact ih
  | remark_right _ ih => exact ih
  | catalogue _ _ => rfl
  | append _ _ => rfl
  | publish _ _ => rfl

end Heedless

/-! ### The parts of a command -/

theorem heedless_bounded (i : Invocation) (step : Step) (request : Catalogue.Request) :
    Heedless (bounded i step request) (bounded i step request) := by
  refine .catalogue fun a => ?_
  rcases a with _ | (_ | _) <;> exact .done _

theorem heedless_missedWrite (i : Invocation) (code : Code) (expected : ℕ) :
    Heedless (missedWrite i code expected) (missedWrite i code expected) := by
  refine (heedless_bounded i _ _).andThen fun current => ?_
  split <;> exact .done _

theorem heedless_write (i : Invocation) (step : Step) (request : Catalogue.Request) (code : Code)
    (expected : ℕ) : Heedless (write i step request code expected)
      (write i step request code expected) := by
  refine (heedless_bounded i step request).bind fun r => ?_
  rcases r with e | _
  · cases e with
    | notFound c => exact heedless_missedWrite i code expected
    | _ => exact .done _
  · exact .done _

/-- **Publication goes on whatever the channel replies.** -/
theorem heedless_publishAll (subject : String) (batch : List Envelope) :
    Heedless (publishAll subject batch) (publishAll subject batch) := by
  induction batch with
  | nil => exact .done ()
  | cons e rest ih =>
    refine .publish fun a a' => ?_
    rcases a with _ | _ <;> rcases a' with _ | _
    · exact ih.remark
    · exact .remark_left ih
    · exact .remark_right ih
    · exact ih

theorem heedless_record (outbound : String) (stamps : ℕ → Stamp) (i : Invocation) (f : Fabric) :
    Heedless (record outbound stamps i f) (record outbound stamps i f) := by
  refine .append fun a => ?_
  rcases a with _ | (_ | _)
  · exact (Heedless.done _).remark
  · exact (Heedless.done _).remark
  · refine Heedless.bind ?_ fun _ => (Heedless.done _).remark
    split
    · exact heedless_publishAll outbound _
    · exact .done ()

theorem heedless_work (channel : Channel) (job : Job) :
    Heedless (job.work channel) (job.work channel) := by
  obtain ⟨c, i, stamps⟩ := job
  have hfinish (message : String) (f : Fabric) :
      Heedless ((record channel.subject stamps i f).andThen (Command.report message))
        ((record channel.subject stamps i f).andThen (Command.report message)) :=
    (heedless_record _ _ i f).andThen fun _ => (Heedless.done _).remark
  cases c with
  | create text d =>
    refine (Heedless.done _).andThen fun f => ?_
    exact (heedless_bounded i _ _).andThen (hfinish _)
  | update text d expected =>
    refine (Heedless.done _).andThen fun code => ?_
    refine (heedless_bounded i _ _).andThen fun current => ?_
    refine (Heedless.done _).andThen fun f => ?_
    exact (heedless_write i _ _ _ _).andThen fun _ => hfinish _ f
  | delete text expected =>
    refine (Heedless.done _).andThen fun code => ?_
    refine (heedless_bounded i _ _).andThen fun current => ?_
    refine (Heedless.done _).andThen fun f => ?_
    exact (heedless_write i _ _ _ _).andThen fun _ => hfinish _ f

theorem Order.heedless (channel : Channel) (order : Order) :
    Heedless (order.work channel) (order.work channel) := by
  cases order with
  | command job => exact (heedless_work channel job).bind fun r => .done _
  | message n =>
    refine Heedless.bind ?_ fun h => .done _
    cases h : n.feed.instruction n.now n.message.payload with
    | error reason =>
      rw [Intake.work_of_dropped channel h]
      exact (Heedless.done _).remark
    | ok i =>
      rw [Intake.work_of_instruction channel h]
      refine (heedless_work channel n.job).bind fun r => ?_
      obtain ⟨m, hm⟩ := Feed.exists_remark r
      rw [hm]
      exact (Heedless.done _).remark

/-- The work of an order depends on the subject of the channel only. -/
theorem Order.work_eq {channel channel' : Channel} (h : channel'.subject = channel.subject)
    (order : Order) : order.work channel' = order.work channel := by
  cases order with
  | command job => simp only [work, Job.work, h]
  | message n =>
    have hperform : n.perform channel' = n.perform channel := by
      funext i
      simp only [Intake.perform, h]
    rw [work, work, Intake.work, Intake.work, hperform]

/-! ### Two channels -/

namespace Mixed

/-- Two states with the same stores, in which the same orders were brought and have the same left to
ask. -/
structure Agrees (m m' : State) : Prop where
  stores_eq : m'.stores = m.stores
  length_eq : m'.parties.length = m.parties.length
  parties : ∀ (k : ℕ) (p p' : Party), m.parties[k]? = some p → m'.parties[k]? = some p' →
    p'.order = p.order ∧ Heedless p.work p'.work

namespace Agrees

variable {m m' : State} {channel channel' : Channel}

theorem bring (h : Agrees m m') (hc : channel'.subject = channel.subject) (order : Order) :
    Agrees (m.step channel (.bring order)) (m'.step channel' (.bring order)) := by
  refine ⟨h.stores_eq, by simp [State.step, h.length_eq], ?_⟩
  intro k p p' hp hp'
  simp only [State.step, List.getElem?_append, List.getElem?_singleton, h.length_eq] at hp hp'
  split at hp
  · next hlt =>
    rw [if_pos hlt] at hp'
    exact h.parties k p p' hp hp'
  · next hlt =>
    rw [if_neg hlt] at hp'
    obtain ⟨-, ⟨⟩⟩ := Option.ite_none_right_eq_some.mp hp
    obtain ⟨-, ⟨⟩⟩ := Option.ite_none_right_eq_some.mp hp'
    refine ⟨rfl, ?_⟩
    rw [Order.work_eq hc]
    exact order.heedless channel

theorem move (h : Agrees m m') (k : ℕ) (timing : Timing) :
    Agrees (m.step channel (.move k timing)) (m'.step channel' (.move k timing)) := by
  cases hp : m.parties[k]? with
  | none =>
    have hp' : m'.parties[k]? = none := by
      rw [List.getElem?_eq_none_iff, h.length_eq]
      exact List.getElem?_eq_none_iff.mp hp
    simpa only [State.step, hp, hp'] using h
  | some p =>
    have hlt := (List.getElem?_eq_some_iff.mp hp).1
    have hlt' := hlt
    rw [← h.length_eq] at hlt'
    have hp' := List.getElem?_eq_getElem hlt'
    obtain ⟨horder, hworks⟩ := h.parties k p _ hp hp'
    obtain ⟨hstores, hgoes⟩ := hworks.goOn channel channel' timing m.stores
    simp only [State.step, hp, hp', h.stores_eq]
    refine ⟨hstores.symm, by simp [h.length_eq], ?_⟩
    intro j q q' hq hq'
    by_cases hkj : k = j
    · subst hkj
      rw [List.getElem?_set_self hlt] at hq
      rw [List.getElem?_set_self hlt'] at hq'
      cases hq
      cases hq'
      exact ⟨horder, hgoes⟩
    · rw [List.getElem?_set_ne hkj] at hq hq'
      exact h.parties j q q' hq hq'

end Agrees

/-- **The channel does not feed back.** One schedule against two channels of the same subject. -/
theorem agrees {channel channel' : Channel} (hc : channel'.subject = channel.subject)
    (σ : List Action) : Agrees (run channel σ) (run channel' σ) := by
  induction σ using List.reverseRecOn with
  | nil => exact ⟨rfl, rfl, by simp [run]⟩
  | append_singleton σ a ih =>
    rw [run_append_singleton, run_append_singleton]
    cases a with
    | bring order => exact ih.bring hc order
    | move k timing => exact ih.move k timing

end Mixed

/-! ### Downstream -/

/-- A caller waits for the result of the order. -/
def Order.Waits : Order → Prop
  | .command job => job.invocation.source = .synchronous
  | .message _ => False

namespace Mixed

/-- **Publication is downstream of the record**, in a schedule and in all its beginnings. -/
structure Downstream (channel : Channel) (σ : List Action) : Prop where
  /-- an action that hands something over hands over one envelope, which is recorded at that moment,
  and is a move of a party for whose result a caller waits -/
  recorded : ∀ (before : List Action) (a : Action), before ++ [a] <+: σ →
    (run channel (before ++ [a])).stores.handed ≠ (run channel before).stores.handed →
    ∃ k timing p e, a = .move k timing ∧ (run channel before).parties[k]? = some p ∧
      p.order.Waits ∧ e ∈ (run channel before).stores.ledger.events ∧
      (run channel (before ++ [a])).stores.handed =
        (run channel before).stores.handed ++ [(channel.subject, e)]
  /-- no two envelopes that are handed over tell of the same version of an aggregate -/
  once : ((run channel σ).stores.handed.map fun h => h.2.key).Nodup
  /-- another channel would have the same handed over, and leave the same stores and results -/
  unheeded : ∀ (channel' : Channel) (before : List Action), before <+: σ →
    channel'.subject = channel.subject →
    (run channel' before).stores = (run channel before).stores ∧
    (run channel' before).parties.map (fun p => (p.order, ending? p.work)) =
      (run channel before).parties.map fun p => (p.order, ending? p.work)

theorem exists_waiting {channel : Channel} {σ : List Action} {k : ℕ} {c : Client}
    (hc : (Traffic.run channel (σ.map Action.shadow)).clients[k]? = some c)
    (hpub : c.job.invocation.publishes = true)
    (heffect : ∃ t f, Command.effect t c.job.command = .ok f) :
    ∃ p, (run channel σ).parties[k]? = some p ∧ p.order.Waits := by
  have hs := shadows channel σ
  have hlt := (List.getElem?_eq_some_iff.mp hc).1
  rw [← hs.length_eq] at hlt
  have hp := List.getElem?_eq_getElem hlt
  obtain ⟨hjob, -⟩ := hs.along k _ c hp hc
  refine ⟨_, hp, ?_⟩
  generalize (run channel σ).parties[k] = p at hjob
  obtain ⟨order, work⟩ := p
  cases order with
  | command job =>
    have hjob : c.job = job := hjob
    rw [hjob, Invocation.publishes, decide_eq_true_eq] at hpub
    exact hpub
  | message n =>
    have hjob : c.job = n.job := hjob
    obtain ⟨t, f, hf⟩ := heffect
    rw [hjob] at hf hpub
    rw [Intake.publishes_of_effect hf] at hpub
    cases hpub

/-- **Publication is downstream of the record and never feeds back**, whatever commands and messages
are at work, in whatever schedule, with whatever deadlines and whatever the channel replies. -/
theorem downstream (channel : Channel) (σ : List Action) : Downstream channel σ := by
  constructor
  case recorded =>
    intro before a _ hne
    have hshadow : (before ++ [a]).map Action.shadow = before.map Action.shadow ++ [a.shadow] := by
      simp
    rw [run_stores, run_stores, hshadow] at hne
    obtain ⟨k, timing, c, e, ha, hc, hpub, heffect, hin, hhanded⟩ := handed_change hne
    obtain ⟨p, hp, hwaits⟩ := exists_waiting hc hpub heffect
    refine ⟨k, timing, p, e, ?_, hp, hwaits, ?_, ?_⟩
    · cases a with
      | bring order => cases ha
      | move j timing' =>
        cases ha
        rfl
    · rw [run_stores]
      exact hin
    · rw [run_stores, run_stores, hshadow]
      exact hhanded
  case once =>
    rw [run_stores]
    exact handed_keys_nodup channel _
  case unheeded =>
    intro channel' before _ hc
    have h := agrees hc before
    refine ⟨h.stores_eq, List.ext_getElem? fun k => ?_⟩
    rw [List.getElem?_map, List.getElem?_map]
    cases hp : (run channel before).parties[k]? with
    | none =>
      have hp' : (run channel' before).parties[k]? = none := by
        rw [List.getElem?_eq_none_iff, h.length_eq]
        exact List.getElem?_eq_none_iff.mp hp
      rw [hp']
    | some p =>
      have hlt := (List.getElem?_eq_some_iff.mp hp).1
      rw [← h.length_eq] at hlt
      have hp' := List.getElem?_eq_getElem hlt
      obtain ⟨horder, hworks⟩ := h.parties k p _ hp hp'
      rw [hp', Option.map_some, Option.map_some, horder, hworks.ending?_eq]

end Mixed

end FabricRegistry.Traffic
