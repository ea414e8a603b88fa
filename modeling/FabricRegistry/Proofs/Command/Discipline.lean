import FabricRegistry.Proofs.Command.Revision
import FabricRegistry.Proofs.Dialogue.Transcript
import Mathlib.Data.List.Forall2

/-!
The calls of a command. Nothing is assumed of the catalogue, the trail and the channel: they reply
what they like, and the deadline may cut off any call of storage. Still the calls come in one of few
forms, each a list from the first call to the last with the result that goes with it: `Creation` for
new fabrics, `Revising` for updates and deletions, and `Closing` for what follows a granted write in
both. Main statement: `Command.call_discipline`.
-/

namespace FabricRegistry.Command

open Dialogue

/-- a call of a command, with the reply; none where the deadline passed first -/
abbrev Call : Type := Exchange Reply

/-- A batch has one envelope for each fact, in order. -/
def Tells (i : Invocation) (facts : List Fact) (batch : List Envelope) : Prop :=
  List.Forall₂ (fun x e => ∃ stamp, e = .ofFact stamp x i.provenance) facts batch

/-- **What follows a granted write of a fabric.** Its facts are recorded in one batch. Only a batch
that is recorded is published, and only for a waiting caller: each envelope once and in order,
whatever the channel replies. -/
inductive Closing (outbound : String) (i : Invocation) (f : Fabric) :
    List Call → Except CommandError Outcome → Prop where
  | recorded {batch published} (hb : Tells i f.pending batch)
      (hp : published.map Sigma.fst = if i.publishes then batch.map (.publish outbound) else []) :
      Closing outbound i f (⟨.append batch i.deadline, some (.ok ())⟩ :: published)
        (.ok ⟨f.settled, batch⟩)
  | refused {batch} {e : Trail.Error} (hb : Tells i f.pending batch) :
      Closing outbound i f [⟨.append batch i.deadline, some (.error e)⟩]
        (.error (.eventsNotRecorded f.code f.version e.message e.isConflict))
  | cutOff {batch} (hb : Tells i f.pending batch) :
      Closing outbound i f [⟨.append batch i.deadline, none⟩]
        (.error (.eventsNotRecorded f.code f.version "deadline exceeded" false))

/-- **The calls of a creation**: none for a code or a name that breaks a rule, otherwise one that
saves the new fabric, and after it only what follows a granted write. -/
inductive Creation (outbound : String) (i : Invocation) (text : String) (d : Details) :
    List Call → Except CommandError Outcome → Prop where
  | badCode {e} (hc : Code.ofString text = .error e) :
      Creation outbound i text d [] (.error (.validation e))
  | badName {code e} (hc : Code.ofString text = .ok code) (hd : d.validate = .error e) :
      Creation outbound i text d [] (.error (.validation e))
  | refused {code} {e : Catalogue.Error} (hc : Code.ofString text = .ok code)
      (hd : d.validate = .ok ()) :
      Creation outbound i text d
        [⟨.catalogue .save (.save (.changed code d .active 1 (.created d))) i.deadline,
          some (.error e)⟩]
        (.error (.ofCatalogue e))
  | cutOff {code} (hc : Code.ofString text = .ok code) (hd : d.validate = .ok ()) :
      Creation outbound i text d
        [⟨.catalogue .save (.save (.changed code d .active 1 (.created d))) i.deadline, none⟩]
        (.error (.deadlineExceeded Step.save.text))
  | saved {code} {persisted : Fabric} {calls r} (hc : Code.ofString text = .ok code)
      (hd : d.validate = .ok ()) (h : Closing outbound i persisted calls r) :
      Creation outbound i text d
        (⟨.catalogue .save (.save (.changed code d .active 1 (.created d))) i.deadline,
          some (.ok persisted)⟩ :: calls) r

/-- what the caller is told when a write found no row, by the reply to the look at the row -/
def missedError (code : Code) (expected : ℕ) : Option (Except Catalogue.Error Fabric) → CommandError
  | some (.ok current) =>
    if current.status = .active ∧ current.version ≠ expected then
      .concurrencyConflict code expected
    else .notFound code
  | some (.error e) => .ofCatalogue e
  | none => .deadlineExceeded Step.reload.text

/-- **The calls of an update or a deletion**: none for a code that breaks a rule, otherwise one that
reads the active fabric. Only when the operation succeeds on what was read, its result is written,
once. A write that found no row is followed by one look at the row and nothing else, a granted one
by what follows a granted write, and any other by nothing. -/
inductive Revising (outbound : String) (i : Invocation) (rev : Revision) (text : String)
    (expected : ℕ) : List Call → Except CommandError Outcome → Prop where
  | badCode {e} (hc : Code.ofString text = .error e) :
      Revising outbound i rev text expected [] (.error (.validation e))
  | notRead {code} {e : Catalogue.Error} (hc : Code.ofString text = .ok code) :
      Revising outbound i rev text expected
        [⟨.catalogue .load (.findActive code) i.deadline, some (.error e)⟩]
        (.error (.ofCatalogue e))
  | readCutOff {code} (hc : Code.ofString text = .ok code) :
      Revising outbound i rev text expected
        [⟨.catalogue .load (.findActive code) i.deadline, none⟩]
        (.error (.deadlineExceeded Step.load.text))
  | rejected {code} {current : Fabric} {e} (hc : Code.ofString text = .ok code)
      (he : rev.operation current expected = .error e) :
      Revising outbound i rev text expected
        [⟨.catalogue .load (.findActive code) i.deadline, some (.ok current)⟩]
        (.error (.ofFabric e))
  | refused {code} {current f : Fabric} {e : Catalogue.Error} (hc : Code.ofString text = .ok code)
      (hf : rev.operation current expected = .ok f) (he : ∀ c, e ≠ .notFound c) :
      Revising outbound i rev text expected
        [⟨.catalogue .load (.findActive code) i.deadline, some (.ok current)⟩,
          ⟨.catalogue rev.step (rev.request f) i.deadline, some (.error e)⟩]
        (.error (.ofCatalogue e))
  | cutOff {code} {current f : Fabric} (hc : Code.ofString text = .ok code)
      (hf : rev.operation current expected = .ok f) :
      Revising outbound i rev text expected
        [⟨.catalogue .load (.findActive code) i.deadline, some (.ok current)⟩,
          ⟨.catalogue rev.step (rev.request f) i.deadline, none⟩]
        (.error (.deadlineExceeded rev.step.text))
  | missed {code c} {current f : Fabric} {reply} (hc : Code.ofString text = .ok code)
      (hf : rev.operation current expected = .ok f) :
      Revising outbound i rev text expected
        [⟨.catalogue .load (.findActive code) i.deadline, some (.ok current)⟩,
          ⟨.catalogue rev.step (rev.request f) i.deadline, some (.error (.notFound c))⟩,
          ⟨.catalogue .reload (.findAny code) i.deadline, reply⟩]
        (.error (missedError code expected reply))
  | written {code} {current f : Fabric} {a calls r} (hc : Code.ofString text = .ok code)
      (hf : rev.operation current expected = .ok f) (h : Closing outbound i f calls r) :
      Revising outbound i rev text expected
        (⟨.catalogue .load (.findActive code) i.deadline, some (.ok current)⟩ ::
          ⟨.catalogue rev.step (rev.request f) i.deadline, some (.ok a)⟩ :: calls) r

/-- the calls of a command, with its result -/
def Disciplined (outbound : String) (i : Invocation) :
    Command → List Call → Except CommandError Outcome → Prop
  | .create text d => Creation outbound i text d
  | .update text d expected => Revising outbound i (.update d) text expected
  | .delete text expected => Revising outbound i .delete text expected

variable {outbound : String} {stamps : ℕ → Stamp} {i : Invocation} {calls : List Call}
  {α β : Type} {f : Fabric} {r : Except CommandError Outcome}

/-! ### One call -/

/-- what a command makes of the reply of the catalogue -/
def heard (step : Step) : Option (Except Catalogue.Error α) → Except CommandError α
  | some (.ok a) => .ok a
  | some (.error e) => .error (.ofCatalogue e)
  | none => .error (.deadlineExceeded step.text)

theorem calls_bounded {step : Step} {request : Catalogue.Request}
    {next : Except CommandError request.Answer → Work α} {r : Except CommandError α}
    (h : Transcript ((bounded i step request).bind next) calls r) :
    ∃ reply rest, calls = ⟨.catalogue step request i.deadline, reply⟩ :: rest ∧
      Transcript (next (heard step reply)) rest r := by
  obtain ⟨reply, rest, rfl, hrest⟩ := transcript_ask_iff.mp h
  refine ⟨reply, rest, rfl, ?_⟩
  rcases reply with _ | _ | _ <;> exact hrest

/-! ### After the write -/

theorem tells_envelopes (stamps : ℕ → Stamp) (i : Invocation) (facts : List Fact) :
    Tells i facts (envelopes stamps i.provenance facts) := by
  unfold Tells envelopes
  rw [List.forall₂_map_right_iff, List.forall₂_iff_get]
  refine ⟨by simp, fun n h₁ h₂ => ⟨stamps n, ?_⟩⟩
  simp

theorem calls_publishAll {batch : List Envelope}
    (h : Transcript (publishAll outbound batch) calls ()) :
    calls.map Sigma.fst = batch.map (.publish outbound) := by
  induction batch generalizing calls with
  | nil =>
    obtain ⟨rfl, -⟩ := transcript_done_iff.mp h
    rfl
  | cons e batch ih =>
    obtain ⟨reply, rest, rfl, hrest⟩ := transcript_ask_iff.mp h
    have hrest : Transcript (publishAll outbound batch) rest () := by
      cases reply with
      | ok _ => exact hrest
      | error _ => exact transcript_remark_iff.mp hrest
    simp [ih hrest]

theorem transcript_notRecorded {reason : String} {conflict : Bool} {r : Except CommandError α}
    (h : Transcript (notRecorded f reason conflict) calls r) :
    calls = [] ∧ r = .error (.eventsNotRecorded f.code f.version reason conflict) :=
  transcript_done_iff.mp (transcript_remark_iff.mp h)

theorem closing_of_record (h : Transcript (record outbound stamps i f) calls r) :
    Closing outbound i f calls r := by
  have hb := tells_envelopes stamps i f.pending
  obtain ⟨reply, rest, rfl, hrest⟩ := transcript_ask_iff.mp h
  rcases reply with _ | e | _
  · obtain ⟨rfl, rfl⟩ := transcript_notRecorded hrest
    exact .cutOff hb
  · obtain ⟨rfl, rfl⟩ := transcript_notRecorded hrest
    exact .refused hb
  · obtain ⟨published, _, last, rfl, hp, hlast⟩ := transcript_bind_iff.mp hrest
    obtain ⟨rfl, rfl⟩ := transcript_done_iff.mp (transcript_remark_iff.mp hlast)
    rw [List.append_nil]
    refine .recorded hb ?_
    cases hi : i.publishes with
    | true =>
      rw [hi] at hp
      exact calls_publishAll hp
    | false =>
      rw [hi] at hp
      obtain ⟨rfl, -⟩ := transcript_done_iff.mp hp
      rfl

theorem closing_of_finish {message : String}
    (h : Transcript ((record outbound stamps i f).andThen (report message)) calls r) :
    Closing outbound i f calls r := by
  obtain ⟨first, result, last, rfl, hrecord, hlast⟩ := transcript_bind_iff.mp h
  have hdone : last = [] ∧ r = result := by
    cases result with
    | ok o => exact transcript_done_iff.mp (transcript_remark_iff.mp hlast)
    | error e => exact transcript_done_iff.mp hlast
  obtain ⟨rfl, rfl⟩ := hdone
  rw [List.append_nil]
  exact closing_of_record hrecord

/-! ### Up to the write -/

theorem creation_of_perform {text : String} {d : Details}
    (h : Transcript (performCreate outbound stamps i text d) calls r) :
    Creation outbound i text d calls r := by
  unfold performCreate at h
  cases hc : Code.ofString text with
  | error e =>
    have hcreate : Fabric.create text d = .error (.validation e) := by simp [Fabric.create, hc]
    rw [hcreate] at h
    obtain ⟨rfl, rfl⟩ := transcript_done_iff.mp h
    exact .badCode hc
  | ok code =>
    cases hd : d.validate with
    | error e =>
      have hcreate : Fabric.create text d = .error (.validation e) := by
        simp [Fabric.create, hc, hd]
      rw [hcreate] at h
      obtain ⟨rfl, rfl⟩ := transcript_done_iff.mp h
      exact .badName hc hd
    | ok _ =>
      have hcreate : Fabric.create text d = .ok (.changed code d .active 1 (.created d)) := by
        simp [Fabric.create, hc, hd, Fabric.changed]
      rw [hcreate] at h
      obtain ⟨reply, rest, rfl, hrest⟩ := calls_bounded h
      rcases reply with _ | e | persisted
      · obtain ⟨rfl, rfl⟩ := transcript_done_iff.mp hrest
        exact .cutOff hc hd
      · obtain ⟨rfl, rfl⟩ := transcript_done_iff.mp hrest
        exact .refused hc hd
      · exact .saved hc hd (closing_of_finish hrest)

/-- After a write that found no row there is one look at the row. -/
theorem calls_missedWrite {code : Code} {expected : ℕ} {after : Unit → Work Outcome}
    (h : Transcript ((missedWrite i code expected).andThen after) calls r) :
    ∃ reply, calls = [⟨.catalogue .reload (.findAny code) i.deadline, reply⟩] ∧
      r = .error (missedError code expected reply) := by
  unfold missedWrite Work.andThen at h
  rw [bind_assoc] at h
  obtain ⟨reply, rest, rfl, hrest⟩ := calls_bounded h
  refine ⟨reply, ?_⟩
  rcases reply with _ | e | current
  · obtain ⟨rfl, rfl⟩ := transcript_done_iff.mp hrest
    exact ⟨rfl, rfl⟩
  · obtain ⟨rfl, rfl⟩ := transcript_done_iff.mp hrest
    exact ⟨rfl, rfl⟩
  · simp only [heard] at hrest
    by_cases hmoved : current.status = .active ∧ current.version ≠ expected
    · rw [if_pos (by simpa [Fabric.isActive] using hmoved)] at hrest
      obtain ⟨rfl, rfl⟩ := transcript_done_iff.mp hrest
      exact ⟨rfl, by simp [missedError, hmoved]⟩
    · rw [if_neg (by simpa [Fabric.isActive] using hmoved)] at hrest
      obtain ⟨rfl, rfl⟩ := transcript_done_iff.mp hrest
      exact ⟨rfl, by simp only [missedError, if_neg hmoved]⟩

theorem revising_of_write {rev : Revision} {text message : String} {expected : ℕ} {code : Code}
    {current : Fabric} (hc : Code.ofString text = .ok code)
    (hf : rev.operation current expected = .ok f)
    (h : Transcript ((write i rev.step (rev.request f) code expected).andThen fun _ =>
      (record outbound stamps i f).andThen (report message)) calls r) :
    Revising outbound i rev text expected
      (⟨.catalogue .load (.findActive code) i.deadline, some (.ok current)⟩ :: calls) r := by
  unfold Work.andThen write at h
  rw [bind_assoc] at h
  obtain ⟨reply, rest, rfl, hrest⟩ := calls_bounded h
  have ends {e : CommandError} (hdone : Transcript (Work.fail e : Work Outcome) rest r) :
      rest = [] ∧ r = .error e := transcript_done_iff.mp hdone
  rcases reply with _ | e | a
  · obtain ⟨rfl, rfl⟩ := ends hrest
    exact .cutOff hc hf
  · cases e with
    | notFound c =>
      obtain ⟨reply, rfl, rfl⟩ := calls_missedWrite hrest
      exact .missed hc hf
    | duplicateCode c =>
      obtain ⟨rfl, rfl⟩ := ends hrest
      exact .refused hc hf (by simp)
    | domain e =>
      cases e <;>
      · obtain ⟨rfl, rfl⟩ := ends hrest
        exact .refused hc hf (by simp)
    | storage reason =>
      obtain ⟨rfl, rfl⟩ := ends hrest
      exact .refused hc hf (by simp)
  · exact .written hc hf (closing_of_finish hrest)

theorem revising_of_perform (rev : Revision) (message : String) {text : String} {expected : ℕ}
    (h : Transcript ((Work.ofValidation (Code.ofString text)).andThen fun code =>
      (bounded i .load (.findActive code)).andThen fun current =>
      (Work.ofFabric (rev.operation current expected)).andThen fun f =>
      (write i rev.step (rev.request f) code expected).andThen fun _ =>
      (record outbound stamps i f).andThen (report message)) calls r) :
    Revising outbound i rev text expected calls r := by
  cases hc : Code.ofString text with
  | error e =>
    rw [hc] at h
    obtain ⟨rfl, rfl⟩ := transcript_done_iff.mp h
    exact .badCode hc
  | ok code =>
    rw [hc] at h
    obtain ⟨reply, rest, rfl, hrest⟩ := calls_bounded h
    rcases reply with _ | e | current
    · obtain ⟨rfl, rfl⟩ := transcript_done_iff.mp hrest
      exact .readCutOff hc
    · obtain ⟨rfl, rfl⟩ := transcript_done_iff.mp hrest
      exact .notRead hc
    · -- the operation is applied to whatever the catalogue said that it had
      simp only [heard] at hrest
      cases hf : rev.operation current expected with
      | error e =>
        rw [hf] at hrest
        obtain ⟨rfl, rfl⟩ := transcript_done_iff.mp hrest
        exact .rejected hc hf
      | ok f =>
        rw [hf] at hrest
        exact revising_of_write hc hf hrest

/-- **The call discipline.** Let collaborators that share a state of any kind answer the calls of a
command with replies of their choice, or let the deadline pass first. The calls, with their replies,
are in one of the forms of the command, and the result is the one that goes with it. -/
theorem call_discipline {σ : Type} (answer : (q : Ask) → σ → Reply q × σ) (note : Remark → σ → σ)
    (s : σ) (outbound : String) (stamps : ℕ → Stamp) (i : Invocation) (c : Command) :
    c.Disciplined outbound i ((c.perform outbound stamps i).exchanges answer note s)
      ((c.perform outbound stamps i).run answer note s).1 := by
  have h := transcript_run answer note (c.perform outbound stamps i) s
  cases c with
  | create text d => exact creation_of_perform h
  | update text d expected =>
    exact revising_of_perform (.update d) "Fabric updated" h
  | delete text expected =>
    exact revising_of_perform .delete "Fabric deleted" h

end FabricRegistry.Command
