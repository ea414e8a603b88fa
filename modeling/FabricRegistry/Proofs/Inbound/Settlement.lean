import FabricRegistry.Inbound.Listener
import FabricRegistry.Proofs.Dialogue.Transcript
import Mathlib.Data.List.Induction

/-!
The listener among those it works with. A *schedule* says what happens next: the feed brings an
item, shutdown is requested, the listener turns to the feed or to the request, a handling is over, a
settlement reaches the broker or fails to. Shutdown may be requested at any moment, also while a
message is handled. A listener that looks for more may turn to either where both are there; one that
is busy turns to neither.

Everything that it notices, asks and hears is on record. The record is made of complete visits to
the items, one after the other in the order of the feed, and of where it stands now. Main statement:
`settled_once`.
-/

namespace FabricRegistry.Inbound.Listener

open Dialogue (Transcript)

/-! ### Listening, one thing after the other -/

/-- what the feed brings -/
inductive Item where
  | message (m : Message)
  | receiveError
  | endOfFeed

def Item.arrival : Item → Arrival
  | message m => .message m
  | receiveError => .receiveError
  | endOfFeed => .endOfFeed

/-- what goes on record -/
inductive Moment where
  | noticed (a : Arrival)
  | asked (q : Ask)
  | heard (q : Ask) (r : Reply q)

/-- a listener with what waits for it -/
structure Scene where
  queue : List Item
  /-- shutdown is requested, or nobody is left to request it -/
  shutdown : Bool
  /-- what is left to do about what was noticed last -/
  work : Dialogue Reply Ending
  record : List Moment

/-- what can happen next -/
inductive Action where
  /-- the feed brings one more item -/
  | bring (i : Item)
  /-- shutdown is requested, or the last who could request it is gone -/
  | flip
  /-- the listener takes the next item -/
  | take
  /-- the listener notices that shutdown is requested -/
  | notice
  /-- the handling is over -/
  | handled (result : Handled)
  /-- the settlement is sent, and reached the broker or failed to -/
  | settled (reached : Bool)

/-- the item that the feed brings -/
def Action.item? : Action → Option Item
  | bring i => some i
  | _ => none

/-- the items that a schedule brings -/
def brought (schedule : List Action) : List Item := schedule.filterMap Action.item?

/-- the work from its next request or its result on -/
def awake : Dialogue Reply Ending → Dialogue Reply Ending
  | .remark _ rest => awake rest
  | w => w

/-- the request that the work begins with -/
def opening : Dialogue Reply Ending → List Moment
  | .ask q _ => [.asked q]
  | _ => []

namespace Scene

/-- the listener with new work, for a reason -/
def turn (s : Scene) (reason : Moment) (work : Dialogue Reply Ending) : Scene :=
  { s with work := awake work, record := s.record ++ reason :: opening (awake work) }

/-- An action for which the listener or its surroundings are not ready changes nothing. -/
def step (s : Scene) : Action → Scene
  | .bring i => { s with queue := s.queue ++ [i] }
  | .flip => { s with shutdown := true }
  | .take =>
    match s.work, s.queue with
    | .done .waiting, i :: rest =>
      { s with queue := rest }.turn (.noticed i.arrival) (listen [i.arrival])
    | _, _ => s
  | .notice =>
    match s.work, s.shutdown with
    | .done .waiting, true => s.turn (.noticed .shutdown) (listen [.shutdown])
    | _, _ => s
  | .handled result =>
    match s.work with
    | .ask (.handle m) next => s.turn (.heard (.handle m) result) (next result)
    | _ => s
  | .settled reached =>
    match s.work with
    | .ask (.settle m d) next => s.turn (.heard (.settle m d) reached) (next reached)
    | _ => s

/-- the scene after a schedule -/
def after (s : Scene) (schedule : List Action) : Scene := schedule.foldl step s

end Scene

/-- the scene after a schedule, from a listener to which nothing has come -/
def run (schedule : List Action) : Scene :=
  Scene.after ⟨[], false, awake (listen []), []⟩ schedule

/-! ### Visits -/

/-- an item that is dealt with -/
inductive Visit where
  | handled (m : Message) (reached : Bool)
  | failed (m : Message) (e : HandlerError) (reached : Bool)
  | receiveError

def Visit.item : Visit → Item
  | handled m _ => .message m
  | failed m _ _ => .message m
  | receiveError => .receiveError

/-- A message is handled, and then settled as its handling went. -/
def Visit.moments : Visit → List Moment
  | handled m reached =>
    [.noticed (.message m), .asked (.handle m), .heard (.handle m) (.ok ()),
      .asked (.settle m .ack), .heard (.settle m .ack) reached]
  | failed m e reached =>
    [.noticed (.message m), .asked (.handle m), .heard (.handle m) (.error e),
      .asked (.settle m .nak), .heard (.settle m .nak) reached]
  | receiveError => [.noticed .receiveError]

/-- where a listener stands -/
inductive Standing where
  | looking
  | handling (m : Message)
  | acknowledging (m : Message)
  | refusing (m : Message) (e : HandlerError)
  | feedOver
  | shutDown

namespace Standing

/-- the item that it has taken -/
def items : Standing → List Item
  | looking => []
  | handling m => [.message m]
  | acknowledging m => [.message m]
  | refusing m _ => [.message m]
  | feedOver => [.endOfFeed]
  | shutDown => []

/-- what is on record about it -/
def moments : Standing → List Moment
  | looking => []
  | handling m => [.noticed (.message m), .asked (.handle m)]
  | acknowledging m =>
    [.noticed (.message m), .asked (.handle m), .heard (.handle m) (.ok ()),
      .asked (.settle m .ack)]
  | refusing m e =>
    [.noticed (.message m), .asked (.handle m), .heard (.handle m) (.error e),
      .asked (.settle m .nak)]
  | feedOver => [.noticed .endOfFeed]
  | shutDown => [.noticed .shutdown]

end Standing

/-- A settlement is asked for, and whether it reaches the broker or not, the listener looks for
more. -/
def Settling (m : Message) (d : Disposition) (work : Dialogue Reply Ending) : Prop :=
  ∃ next, work = .ask (.settle m d) next ∧ ∀ reached, awake (next reached) = .done .waiting

/-- What is left to do. However a handling goes, its settlement follows. -/
inductive Left : Standing → Dialogue Reply Ending → Prop where
  | looking : Left .looking (.done .waiting)
  | handling {m next} (h : ∀ result, Settling m (.of result) (awake (next result))) :
      Left (.handling m) (.ask (.handle m) next)
  | acknowledging {m work} (h : Settling m .ack work) : Left (.acknowledging m) work
  | refusing {m e work} (h : Settling m .nak work) : Left (.refusing m e) work
  | feedOver : Left .feedOver (.done .stopped)
  | shutDown : Left .shutDown (.done .stopped)

variable {s : Scene} {visits : List Visit} {standing : Standing} {items : List Item} {m : Message}
  {d : Disposition} {q : Ask} {next : Reply q → Dialogue Reply Ending} {e : Ending}

/-! ### What is left to do -/

theorem left_listen_message (m : Message) : Left (.handling m) (awake (listen [.message m])) := by
  refine .handling fun result => ?_
  cases result with
  | ok _ => exact ⟨_, rfl, fun reached => by cases reached <;> rfl⟩
  | error e => exact ⟨_, rfl, fun reached => by cases reached <;> rfl⟩

theorem not_settling_done : ¬ Settling m d (.done e) := by
  rintro ⟨next, hw, -⟩
  cases hw

theorem not_settling_handle {m' next} : ¬ Settling m d (.ask (.handle m') next) := by
  rintro ⟨next, hw, -⟩
  cases hw

theorem Left.eq_looking (h : Left standing (.done .waiting)) : standing = .looking := by
  cases h with
  | looking => rfl
  | acknowledging h => exact absurd h not_settling_done
  | refusing h => exact absurd h not_settling_done

theorem Left.of_handle {next} (h : Left standing (.ask (.handle m) next)) :
    standing = .handling m ∧ ∀ result, Settling m (.of result) (awake (next result)) := by
  cases h with
  | handling h => exact ⟨rfl, h⟩
  | acknowledging h => exact absurd h not_settling_handle
  | refusing h => exact absurd h not_settling_handle

theorem Left.of_settle {next} (h : Left standing (.ask (.settle m d) next)) :
    (∀ reached, awake (next reached) = .done .waiting) ∧
      (standing = .acknowledging m ∧ d = .ack ∨ ∃ e, standing = .refusing m e ∧ d = .nak) := by
  cases h with
  | acknowledging h =>
    obtain ⟨next, hw, hnext⟩ := h
    cases hw
    exact ⟨hnext, Or.inl ⟨rfl, rfl⟩⟩
  | refusing h =>
    obtain ⟨next, hw, hnext⟩ := h
    cases hw
    exact ⟨hnext, Or.inr ⟨_, rfl, rfl⟩⟩

/-! ### What an action changes -/

theorem record_turn_of_ask {work reason} (h : awake work = .ask q next) :
    (s.turn reason work).record = s.record ++ [reason, .asked q] := by
  simp only [Scene.turn, h]
  rfl

theorem record_turn_of_done {work reason} (h : awake work = .done e) :
    (s.turn reason work).record = s.record ++ [reason] := by
  simp only [Scene.turn, h]
  rfl

/-- All that can happen to a scene. -/
inductive Happens (s : Scene) : Action → Scene → Prop where
  | brought {i : Item} : Happens s (.bring i) { s with queue := s.queue ++ [i] }
  | flipped : Happens s .flip { s with shutdown := true }
  | taken {i rest} (hw : s.work = .done .waiting) (hq : s.queue = i :: rest) :
      Happens s .take ({ s with queue := rest }.turn (.noticed i.arrival) (listen [i.arrival]))
  | noticed (hw : s.work = .done .waiting) (hs : s.shutdown = true) :
      Happens s .notice (s.turn (.noticed .shutdown) (listen [.shutdown]))
  | heard {a q next} (hw : s.work = .ask q next) (r : Reply q) (ha : a.item? = none) :
      Happens s a (s.turn (.heard q r) (next r))
  /-- nothing is ready for the action -/
  | idle {a : Action} (ha : a.item? = none) : Happens s a s

theorem happens_step (s : Scene) (a : Action) : Happens s a (s.step a) := by
  cases a with
  | bring i => exact .brought
  | flip => exact .flipped
  | take =>
    simp only [Scene.step]
    split
    next i rest hw hq => exact .taken hw hq
    next => exact .idle rfl
  | notice =>
    simp only [Scene.step]
    split
    next hw hs => exact .noticed hw hs
    next => exact .idle rfl
  | handled result =>
    simp only [Scene.step]
    split
    next m next hw => exact .heard hw result rfl
    next => exact .idle rfl
  | settled reached =>
    simp only [Scene.step]
    split
    next m d next hw => exact .heard hw reached rfl
    next => exact .idle rfl

theorem record_prefix_step (s : Scene) (a : Action) : s.record <+: (s.step a).record := by
  have h := happens_step s a
  generalize s.step a = s' at h ⊢
  cases h with
  | brought => exact List.prefix_rfl
  | flipped => exact List.prefix_rfl
  | taken => exact List.prefix_append _ _
  | noticed => exact List.prefix_append _ _
  | heard => exact List.prefix_append _ _
  | idle => exact List.prefix_rfl

theorem after_cons (s : Scene) (a : Action) (rest : List Action) :
    s.after (a :: rest) = (s.step a).after rest := rfl

theorem record_prefix_after (s : Scene) (schedule : List Action) :
    s.record <+: (s.after schedule).record := by
  induction schedule generalizing s with
  | nil => exact List.prefix_rfl
  | cons a rest ih => exact (record_prefix_step s a).trans (ih (s.step a))

/-- A listener that has stopped does nothing more. -/
theorem after_of_stopped (hw : s.work = .done .stopped) (schedule : List Action) :
    (s.after schedule).work = .done .stopped ∧ (s.after schedule).record = s.record := by
  induction schedule generalizing s with
  | nil => exact ⟨hw, rfl⟩
  | cons a rest ih =>
    have hstep : (s.step a).work = .done .stopped ∧ (s.step a).record = s.record := by
      have h := happens_step s a
      generalize s.step a = s' at h ⊢
      cases h with
      | brought => exact ⟨hw, rfl⟩
      | flipped => exact ⟨hw, rfl⟩
      | taken hwaiting => cases hw.symm.trans hwaiting
      | noticed hwaiting => cases hw.symm.trans hwaiting
      | heard hask => cases hw.symm.trans hask
      | idle => exact ⟨hw, rfl⟩
    obtain ⟨hwork, hrecord⟩ := ih hstep.1
    exact ⟨hwork, hrecord.trans hstep.2⟩

/-- A listener that comes to an end has heard every reply that it waited for. -/
theorem exists_heard (hw : s.work = .ask q next) {schedule : List Action}
    (hend : (s.after schedule).work = .done e) :
    ∃ (s' : Scene) (r : Reply q) (rest : List Action), s'.record = s.record ∧
      s.after schedule = (s'.turn (.heard q r) (next r)).after rest := by
  induction schedule generalizing s with
  | nil => cases hw.symm.trans hend
  | cons a rest ih =>
    rw [after_cons] at hend ⊢
    have h := happens_step s a
    generalize s.step a = s' at h hend ⊢
    cases h with
    | @brought i => exact ih (s := { s with queue := s.queue ++ [i] }) hw hend
    | flipped => exact ih (s := { s with shutdown := true }) hw hend
    | taken hwaiting => cases hw.symm.trans hwaiting
    | noticed hwaiting => cases hw.symm.trans hwaiting
    | heard hask r =>
      cases hw.symm.trans hask
      exact ⟨s, r, rest, rfl, rfl⟩
    | idle => exact ih hw hend

/-- A listener that comes to an end has settled the message that it was handling. -/
theorem settled_of_handling {next} (hleft : Left standing s.work)
    (hw : s.work = .ask (.handle m) next) {schedule : List Action}
    (hend : (s.after schedule).work = .done e) :
    ∃ result reached, s.record ++ [.heard (.handle m) result, .asked (.settle m (.of result)),
      .heard (.settle m (.of result)) reached] <+: (s.after schedule).record := by
  obtain ⟨s₁, result, rest₁, hrecord₁, hafter₁⟩ := exists_heard hw hend
  obtain ⟨next', hask, hnext'⟩ := (hw ▸ hleft).of_handle.2 result
  rw [hafter₁] at hend ⊢
  obtain ⟨s₂, reached, rest₂, hrecord₂, hafter₂⟩ := exists_heard hask hend
  rw [hafter₂]
  have hsettled : (s₂.turn (.heard (.settle m (.of result)) reached) (next' reached)).record =
      s.record ++ [.heard (.handle m) result, .asked (.settle m (.of result)),
        .heard (.settle m (.of result)) reached] := by
    rw [record_turn_of_done (hnext' reached), hrecord₂, record_turn_of_ask hask, hrecord₁]
    simp
  exact ⟨result, reached, hsettled ▸ record_prefix_after _ rest₂⟩

/-! ### The record as visits -/

/-- The record is made of visits and of where the listener stands, the visits are to the items
before the one that it has taken and those that wait, and it left for a request that was made. -/
structure Shows (s : Scene) (items : List Item) (visits : List Visit) (standing : Standing) :
    Prop where
  record_eq : s.record = visits.flatMap Visit.moments ++ standing.moments
  items_eq : visits.map Visit.item ++ standing.items ++ s.queue = items
  left : Left standing s.work
  requested : standing = .shutDown → s.shutdown = true

namespace Shows

theorem take (h : Shows s items visits standing) (hw : s.work = .done .waiting) {i : Item}
    {rest : List Item} (hq : s.queue = i :: rest) :
    ∃ visits standing, Shows
      ({ s with queue := rest }.turn (.noticed i.arrival) (listen [i.arrival]))
      items visits standing := by
  obtain ⟨hrecord, hitems, hleft, -⟩ := h
  obtain rfl := (hw ▸ hleft).eq_looking
  rw [hq] at hitems
  cases i with
  | message m =>
    refine ⟨visits, .handling m, ?_, ?_, left_listen_message m, nofun⟩
    · rw [record_turn_of_ask rfl, hrecord]
      simp [Standing.moments, Item.arrival]
    · simpa [Scene.turn, Standing.items] using hitems
  | receiveError =>
    refine ⟨visits ++ [.receiveError], .looking, ?_, ?_, .looking, nofun⟩
    · rw [record_turn_of_done rfl, hrecord]
      simp [Standing.moments, Visit.moments, Item.arrival]
    · simpa [Scene.turn, Standing.items, Visit.item] using hitems
  | endOfFeed =>
    refine ⟨visits, .feedOver, ?_, ?_, .feedOver, nofun⟩
    · rw [record_turn_of_done rfl, hrecord]
      simp [Standing.moments, Item.arrival]
    · simpa [Scene.turn, Standing.items] using hitems

theorem leave (h : Shows s items visits standing) (hw : s.work = .done .waiting)
    (hs : s.shutdown = true) :
    Shows (s.turn (.noticed .shutdown) (listen [.shutdown])) items visits .shutDown := by
  obtain ⟨hrecord, hitems, hleft, -⟩ := h
  obtain rfl := (hw ▸ hleft).eq_looking
  refine ⟨?_, hitems, .shutDown, fun _ => hs⟩
  rw [record_turn_of_done rfl, hrecord]
  simp [Standing.moments]

theorem handled {next} (h : Shows s items visits standing) (hw : s.work = .ask (.handle m) next)
    (result : Handled) :
    ∃ standing, Shows (s.turn (.heard (.handle m) result) (next result)) items visits standing := by
  obtain ⟨hrecord, hitems, hleft, -⟩ := h
  obtain ⟨rfl, hnext⟩ := (hw ▸ hleft).of_handle
  obtain ⟨next', hask, hnext'⟩ := hnext result
  cases result with
  | ok _ =>
    refine ⟨.acknowledging m, ?_, hitems, .acknowledging ⟨next', hask, hnext'⟩, nofun⟩
    rw [record_turn_of_ask hask, hrecord]
    simp [Standing.moments, Disposition.of]
  | error e =>
    refine ⟨.refusing m e, ?_, hitems, .refusing ⟨next', hask, hnext'⟩, nofun⟩
    rw [record_turn_of_ask hask, hrecord]
    simp [Standing.moments, Disposition.of]

theorem settled {next} (h : Shows s items visits standing) (hw : s.work = .ask (.settle m d) next)
    (reached : Bool) :
    ∃ visit, Shows (s.turn (.heard (.settle m d) reached) (next reached)) items
      (visits ++ [visit]) .looking := by
  obtain ⟨hrecord, hitems, hleft, -⟩ := h
  obtain ⟨hnext, hstanding⟩ := (hw ▸ hleft).of_settle
  have hlooking : Left .looking (awake (next reached)) := (hnext reached).symm ▸ .looking
  rcases hstanding with ⟨rfl, rfl⟩ | ⟨e, rfl, rfl⟩
  · refine ⟨.handled m reached, ?_, ?_, hlooking, nofun⟩
    · rw [record_turn_of_done (hnext reached), hrecord]
      simp [Standing.moments, Visit.moments]
    · simpa [Scene.turn, Standing.items, Visit.item] using hitems
  · refine ⟨.failed m e reached, ?_, ?_, hlooking, nofun⟩
    · rw [record_turn_of_done (hnext reached), hrecord]
      simp [Standing.moments, Visit.moments]
    · simpa [Scene.turn, Standing.items, Visit.item] using hitems

theorem step (h : Shows s items visits standing) (a : Action) :
    ∃ visits standing, Shows (s.step a) (items ++ a.item?.toList) visits standing := by
  have ha := happens_step s a
  generalize s.step a = s' at ha ⊢
  cases ha with
  | @brought i =>
    have hitems : visits.map Visit.item ++ standing.items ++ (s.queue ++ [i]) = items ++ [i] := by
      rw [← List.append_assoc, h.items_eq]
    exact ⟨visits, standing, h.record_eq, hitems, h.left, h.requested⟩
  | flipped =>
    have hitems := h.items_eq.trans (List.append_nil items).symm
    exact ⟨visits, standing, h.record_eq, hitems, h.left, fun _ => rfl⟩
  | taken hw hq =>
    have hitems : items ++ Action.take.item?.toList = items := List.append_nil items
    rw [hitems]
    exact h.take hw hq
  | noticed hw hs =>
    have hitems : items ++ Action.notice.item?.toList = items := List.append_nil items
    rw [hitems]
    exact ⟨visits, .shutDown, h.leave hw hs⟩
  | @heard _ q next hw r hitem =>
    rw [hitem, Option.toList_none, List.append_nil]
    cases q with
    | handle m =>
      obtain ⟨standing, h⟩ := h.handled hw r
      exact ⟨visits, standing, h⟩
    | settle m d =>
      obtain ⟨visit, h⟩ := h.settled hw r
      exact ⟨visits ++ [visit], .looking, h⟩
  | idle hitem =>
    rw [hitem, Option.toList_none, List.append_nil]
    exact ⟨visits, standing, h⟩

end Shows

theorem run_append_singleton (schedule : List Action) (a : Action) :
    run (schedule ++ [a]) = (run schedule).step a := by
  simp [run, Scene.after]

theorem brought_append_singleton (schedule : List Action) (a : Action) :
    brought (schedule ++ [a]) = brought schedule ++ a.item?.toList := by
  cases a <;> simp [brought, Action.item?]

theorem shows_run (schedule : List Action) :
    ∃ visits standing, Shows (run schedule) (brought schedule) visits standing := by
  induction schedule using List.reverseRecOn with
  | nil => exact ⟨[], .looking, rfl, rfl, .looking, nofun⟩
  | append_singleton schedule a ih =>
    obtain ⟨visits, standing, h⟩ := ih
    rw [run_append_singleton, brought_append_singleton]
    exact h.step a

theorem flip_mem_of_shutdown {schedule : List Action} (h : (run schedule).shutdown = true) :
    .flip ∈ schedule := by
  induction schedule using List.reverseRecOn with
  | nil => cases h
  | append_singleton schedule a ih =>
    rw [run_append_singleton] at h
    have ha := happens_step (run schedule) a
    generalize (run schedule).step a = s' at h ha
    cases ha with
    | flipped => exact List.mem_append_right _ List.mem_cons_self
    | noticed hw hs => exact List.mem_append_left _ (ih hs)
    | brought => exact List.mem_append_left _ (ih h)
    | taken => exact List.mem_append_left _ (ih h)
    | heard => exact List.mem_append_left _ (ih h)
    | idle => exact List.mem_append_left _ (ih h)

/-! ### The record as a run of `listen` -/

/-- everything noticed, in order -/
def arrivals (record : List Moment) : List Arrival :=
  record.filterMap fun
    | .noticed a => some a
    | _ => none

/-- every request with the reply to it -/
def exchanges (record : List Moment) : List (Exchange Reply) :=
  record.filterMap fun
    | .heard q r => some ⟨q, r⟩
    | _ => none

/-- However the work goes on, it goes on as listening to everything noticed would after the same
replies. -/
def Follows (s : Scene) : Prop :=
  ∀ calls e, Transcript s.work calls e →
    Transcript (listen (arrivals s.record)) (exchanges s.record ++ calls) e

theorem process_bind (m : Message) (rest : Dialogue Reply Ending)
    (f : Ending → Dialogue Reply Ending) : (process m rest).bind f = process m (rest.bind f) := by
  simp only [process, Dialogue.bind]
  congr 2
  funext result
  cases result with
  | ok _ =>
    simp only [Dialogue.bind]
    congr 1
    funext reached
    cases reached <;> rfl
  | error e =>
    simp only [Dialogue.bind]
    congr 2
    funext reached
    cases reached <;> rfl

/-- What came first is dealt with first, and if it ended the listening, the rest is not. -/
theorem listen_append (first rest : List Arrival) :
    listen (first ++ rest) = (listen first).bind fun
      | .waiting => listen rest
      | .stopped => .done .stopped := by
  induction first with
  | nil => rfl
  | cons a first ih =>
    cases a with
    | message m =>
      simp only [List.cons_append, listen, process_bind, ih]
    | receiveError => simp only [List.cons_append, listen, Dialogue.bind, ih]
    | endOfFeed => rfl
    | shutdown => rfl

theorem transcript_awake_iff {work : Dialogue Reply Ending} {calls} :
    Transcript (awake work) calls e ↔ Transcript work calls e := by
  induction work with
  | done a => exact Iff.rfl
  | remark r rest ih =>
    rw [Dialogue.transcript_remark_iff]
    exact ih
  | ask q next => exact Iff.rfl

/-- What is read off a record without regard to requests that are asked. -/
theorem filterMap_turn {β : Type} {g : Moment → Option β} (hg : ∀ q, g (.asked q) = none)
    (s : Scene) (reason : Moment) (work : Dialogue Reply Ending) :
    (s.turn reason work).record.filterMap g = s.record.filterMap g ++ [reason].filterMap g := by
  have hopening : (opening (awake work)).filterMap g = [] := by
    cases awake work with
    | ask q next => simp [opening, hg]
    | _ => rfl
  rw [Scene.turn, ← List.singleton_append, List.filterMap_append, List.filterMap_append, hopening,
    List.append_nil]

theorem arrivals_turn (s : Scene) (reason : Moment) (work : Dialogue Reply Ending) :
    arrivals (s.turn reason work).record = arrivals s.record ++ arrivals [reason] :=
  filterMap_turn (fun _ => rfl) s reason work

theorem exchanges_turn (s : Scene) (reason : Moment) (work : Dialogue Reply Ending) :
    exchanges (s.turn reason work).record = exchanges s.record ++ exchanges [reason] :=
  filterMap_turn (fun _ => rfl) s reason work

/-- What is noticed is dealt with behind everything before it. -/
theorem Follows.notice (h : Follows s) (hw : s.work = .done .waiting) (a : Arrival) :
    Follows (s.turn (.noticed a) (listen [a])) := by
  intro calls e hcalls
  have hbefore : Transcript (listen (arrivals s.record)) (exchanges s.record ++ []) .waiting :=
    h [] .waiting (hw ▸ .done)
  rw [arrivals_turn, exchanges_turn]
  change Transcript (listen (arrivals s.record ++ [a])) (exchanges s.record ++ [] ++ calls) e
  rw [listen_append, Dialogue.transcript_bind_iff]
  exact ⟨_, .waiting, calls, rfl, hbefore, transcript_awake_iff.mp hcalls⟩

theorem Follows.hear (h : Follows s) (hw : s.work = .ask q next) (r : Reply q) :
    Follows (s.turn (.heard q r) (next r)) := by
  intro calls e hcalls
  have hlater : Transcript s.work (⟨q, r⟩ :: calls) e :=
    hw ▸ .ask r (transcript_awake_iff.mp hcalls)
  rw [arrivals_turn, exchanges_turn, List.append_assoc]
  change Transcript (listen (arrivals s.record ++ [])) (exchanges s.record ++ ⟨q, r⟩ :: calls) e
  rw [List.append_nil]
  exact h _ e hlater

theorem Follows.step (h : Follows s) (a : Action) : Follows (s.step a) := by
  have ha := happens_step s a
  generalize s.step a = s' at ha ⊢
  cases ha with
  | brought => exact h
  | flipped => exact h
  | @taken i rest hw hq => exact Follows.notice (s := { s with queue := rest }) h hw i.arrival
  | noticed hw hs => exact h.notice hw .shutdown
  | heard hw r => exact h.hear hw r
  | idle => exact h

theorem follows_run (schedule : List Action) : Follows (run schedule) := by
  induction schedule using List.reverseRecOn with
  | nil => exact fun calls e h => h
  | append_singleton schedule a ih =>
    rw [run_append_singleton]
    exact ih.step a

/-! ### The law -/

/-- **Every message is settled once, as its handling went.** After any schedule, the record is that
of visits to the items, in the order of the feed, and of where the listener stands. A message is
handled once, and then acknowledged or refused, before the next item is taken. After a receive
error, and whether or not a settlement reaches the broker, the listener looks for more. It stops
only at the end of the feed or for a request to shut down, after which it does nothing more, and a
message whose handling had begun is settled first. All this is a run of `listen`. -/
theorem settled_once (schedule : List Action) :
    (∃ (visits : List Visit) (standing : Standing),
      (run schedule).record = visits.flatMap Visit.moments ++ standing.moments ∧
      visits.map Visit.item ++ standing.items ++ (run schedule).queue = brought schedule ∧
      Left standing (run schedule).work ∧
      (standing = .shutDown → .flip ∈ schedule)) ∧
    Follows (run schedule) ∧
    (∀ more, (run schedule).work = .done .stopped →
      (run (schedule ++ more)).work = .done .stopped ∧
      (run (schedule ++ more)).record = (run schedule).record) ∧
    ∀ m next more, (run schedule).work = .ask (.handle m) next →
      (run (schedule ++ more)).work = .done .stopped →
      ∃ result reached, (run schedule).record ++
        [.heard (.handle m) result, .asked (.settle m (.of result)),
          .heard (.settle m (.of result)) reached] <+: (run (schedule ++ more)).record := by
  have happend : ∀ more, run (schedule ++ more) = (run schedule).after more := by
    simp [run, Scene.after]
  obtain ⟨visits, standing, h⟩ := shows_run schedule
  refine ⟨⟨visits, standing, h.record_eq, h.items_eq, h.left, fun hs => ?_⟩,
    follows_run schedule, fun more hw => ?_, fun m next more hw hend => ?_⟩
  · exact flip_mem_of_shutdown (h.requested hs)
  · rw [happend]
    exact after_of_stopped hw more
  · rw [happend] at hend ⊢
    exact settled_of_handling h.left hw hend

/-- Shutdown is requested while a message is handled, with another one waiting. -/
example (m m' : Message) (e : HandlerError) :
    (run [.bring (.message m), .bring (.message m'), .take, .flip, .notice, .handled (.error e),
      .settled false, .notice, .take]).record =
        (Visit.failed m e false).moments ++ Standing.shutDown.moments := rfl

end FabricRegistry.Inbound.Listener
