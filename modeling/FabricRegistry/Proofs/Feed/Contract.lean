import FabricRegistry.Proofs.Command.Written
import FabricRegistry.Proofs.Dialogue.Transcript
import FabricRegistry.Proofs.Feed.Announcement
import FabricRegistry.Proofs.Feed.Notice

/-!
What a message sets off, whatever the service makes of it. A message that can never succeed is
`Spoiled`; it sets off nothing and is done with. Any other sets off the one command that its event
names (`Names`) for what its payload says (`Says`), in the name of its envelope (`SetOff`), and is
done with unless the command fails in a way that may be gone at the next attempt (`Acknowledges`).
Nothing is assumed of the service.
Main statement: `Feed.handle_contract`.
-/

namespace FabricRegistry

/-- A failure that may be gone at the next attempt: time ran out, storage fails, or a row is written
and its envelopes are not, for a reason other than that somebody else was first. -/
inductive CommandError.Transient : CommandError → Prop where
  | deadlineExceeded (step : String) : Transient (.deadlineExceeded step)
  | storage (reason : String) : Transient (.storage reason)
  | eventsNotRecorded (code : Code) (version : ℕ) (reason : String) :
      Transient (.eventsNotRecorded code version reason false)

theorem CommandError.isRetryable_iff {e : CommandError} : e.isRetryable = true ↔ e.Transient := by
  constructor
  · intro h
    cases e with
    | deadlineExceeded step => exact .deadlineExceeded step
    | storage reason => exact .storage reason
    | eventsNotRecorded code version reason conflict =>
      cases conflict with
      | false => exact .eventsNotRecorded code version reason
      | true => cases h
    | _ => cases h
  · rintro (_ | _ | _) <;> rfl

namespace Inbound

/-! ### What a message says -/

/-- A message that can never succeed. -/
inductive Spoiled (payload : ByteArray) : Prop where
  | unreadable (h : Envelope.ofBytes? payload = none)
  | invalid {e : Envelope} {err : EnvelopeError} (h : Envelope.ofBytes? payload = some e)
      (hv : e.validate = .error err)
  | unknown {e : Envelope} (h : Envelope.ofBytes? payload = some e)
      (ht : e.eventType ∉ ["erp.fabric.created", "erp.fabric.updated", "erp.fabric.deleted"])
  | unreadablePayload {e : Envelope} (h : Envelope.ofBytes? payload = some e)
      (ha : ∀ a, ¬ Says e.payload a)
  | unversioned {e : Envelope} (h : Envelope.ofBytes? payload = some e)
      (ht : e.eventType ∈ ["erp.fabric.updated", "erp.fabric.deleted"])
      (hv : e.aggregateVersion = 0)
  | unnamed {e : Envelope} {a : Announcement} (h : Envelope.ofBytes? payload = some e)
      (ht : e.eventType = "erp.fabric.updated") (ha : Says e.payload a)
      (hn : ¬ (1 ≤ a.name.length ∧ a.name.length ≤ 250))

/-- A payload has a text in a field, and it is not empty. -/
def Gives (v : Json.Value) (name s : String) : Prop :=
  ∃ field, HasFields v field ∧ field name = some (.string s) ∧ s ≠ ""

/-- A payload lacks a field, or has null or an empty text in it. -/
def Lacks (v : Json.Value) (name : String) : Prop :=
  ∃ field, HasFields v field ∧
    (field name = none ∨ field name = some .null ∨ field name = some (.string ""))

/-- Details say what an announcement says, as far as it does. -/
structure Repeats (e : Envelope) (a : Announcement) (d : Details) : Prop where
  name : d.name = a.name
  measureUnit : ∀ s, Gives e.payload "measure_unit" s → d.measureUnit = s
  offerStatus : ∀ s, Gives e.payload "offer_status" s → d.offerStatus = s

/-- Details have the defaults for what an announcement lacks. -/
structure Fills (feed : Feed) (e : Envelope) (d : Details) : Prop where
  measureUnit : Lacks e.payload "measure_unit" → d.measureUnit = feed.defaults.measureUnit
  offerStatus : Lacks e.payload "offer_status" → d.offerStatus = feed.defaults.offerStatus

/-- The command that the type of an event names, for what an announcement says. -/
inductive Names (feed : Feed) (e : Envelope) (a : Announcement) : Command → Prop where
  | created {d : Details} (ht : e.eventType = "erp.fabric.created") (hd : Repeats e a d)
      (hdefault : Fills feed e d) : Names feed e a (.create a.code d)
  | updated {d : Details} {expected : ℕ} (ht : e.eventType = "erp.fabric.updated")
      (hd : Repeats e a d) (hv : expected + 1 = e.aggregateVersion) :
      Names feed e a (.update a.code d expected)
  | deleted {expected : ℕ} (ht : e.eventType = "erp.fabric.deleted")
      (hv : expected + 1 = e.aggregateVersion) : Names feed e a (.delete a.code expected)

/-- The invocation of a command that an envelope sets off. -/
structure SetOff (feed : Feed) (now : Instant) (e : Envelope) (i : Invocation) : Prop where
  source : i.source = .asynchronous
  causation : i.provenance.causation = some e.id.text
  correlation : ∀ c, e.provenance.correlation = some c → i.provenance.correlation = some c
  ownCorrelation : e.provenance.correlation = none → i.provenance.correlation = some e.id.text
  user : i.provenance.user = e.provenance.user
  deadline : ∀ t, feed.timeout = some t → i.deadline = some (now.after t)
  unhurried : feed.timeout = none → i.deadline = none

/-- What the feed is told by the reply of the service: to deliver the message again for a failure
that may be gone then, and otherwise that it is done with. -/
inductive Acknowledges (reply : Except CommandError Outcome) : Handled → Prop where
  | again {err : CommandError} (h : reply = .error err) (ht : err.Transient) :
      Acknowledges reply (.error (.command err))
  | done (h : ∀ err, reply = .error err → ¬ err.Transient) : Acknowledges reply (.ok ())

variable {feed : Feed} {now : Instant} {payload : ByteArray} {e : Envelope} {a : Announcement}
  {i : Instruction} {name s default : String} {v : Json.Value}
  {field : String → Option Json.Value} {x : Notice} {op : Operation}

/-! ### Texts that may be missing -/

theorem orDefault_of_gives {text : Option String} (hfield : HasFields v field)
    (h : HoldsOptional (field name) text) (hs : Gives v name s) :
    Announcement.orDefault text default = s := by
  obtain ⟨field', hfield', hs, hne⟩ := hs
  obtain rfl := hfield.unique hfield'
  rw [hs] at h
  cases h
  exact if_neg hne

theorem orDefault_of_lacks {text : Option String} (hfield : HasFields v field)
    (h : HoldsOptional (field name) text) (hl : Lacks v name) :
    Announcement.orDefault text default = default := by
  obtain ⟨field', hfield', hl⟩ := hl
  obtain rfl := hfield.unique hfield'
  rcases hl with hl | hl | hl <;> rw [hl] at h <;> cases h
  · rfl
  · rfl
  · simp [Announcement.orDefault]

theorem repeats_details (h : Says e.payload a) (defaults : FeedDefaults) :
    Repeats e a (a.details defaults) := by
  obtain ⟨field, hfield, ha⟩ := h
  exact ⟨rfl, fun s => orDefault_of_gives hfield ha.measureUnit,
    fun s => orDefault_of_gives hfield ha.offerStatus⟩

theorem fills_details (h : Says e.payload a) (feed : Feed) :
    Fills feed e (a.details feed.defaults) := by
  obtain ⟨field, hfield, ha⟩ := h
  exact ⟨orDefault_of_lacks hfield ha.measureUnit, orDefault_of_lacks hfield ha.offerStatus⟩

/-! ### Messages that set something off -/

namespace Feed

theorem setOff_invocation (feed : Feed) (now : Instant) (e : Envelope) :
    SetOff feed now e (feed.invocation now e) where
  source := by simp
  causation := by simp
  correlation c h := by simp [h]
  ownCorrelation h := by simp [h]
  user := by simp
  deadline t h := by simp [h]
  unhurried h := by simp [h]

/-- A message that becomes an instruction is not spoiled. -/
theorem not_spoiled_of_instruction (h : feed.instruction now payload = .ok i) :
    ¬ Spoiled payload := by
  obtain ⟨x, hx, hvalid, -, hc⟩ := exists_notice h
  obtain ⟨he, hop, ha⟩ := Notice.ofBytes?_eq_some_iff.mp hx
  have htype := operation?_eq_some_iff.mp hop
  intro hspoiled
  cases hspoiled with
  | unreadable h' => exact absurd (he.symm.trans h') nofun
  | @invalid e err h' hv =>
    cases he.symm.trans h'
    exact absurd (hvalid.symm.trans hv) nofun
  | @unknown e h' ht =>
    cases he.symm.trans h'
    rw [htype] at ht
    cases hx : x.operation with
    | reactivated =>
      rw [hx] at hc
      cases hc
    | _ => exact ht (by rw [hx]; decide)
  | @unreadablePayload e h' ha' =>
    cases he.symm.trans h'
    exact ha' _ (Announcement.ofValue?_eq_some_iff.mp ha)
  | @unversioned e h' ht hv =>
    cases he.symm.trans h'
    have hrevises : x.Revises := by
      rw [htype] at ht
      cases hx : x.operation with
      | updated => exact Or.inl hx
      | deleted => exact Or.inr hx
      | _ => exact absurd (hx ▸ ht) (by decide)
    exact absurd hv (Nat.one_le_iff_ne_zero.mp (command_of_revises hrevises hc).1)
  | @unnamed e a h' ht ha' hn =>
    cases he.symm.trans h'
    cases ha.symm.trans (Announcement.ofValue?_eq_some_iff.mpr ha')
    have hx : x.operation = .updated := by
      rw [htype] at ht
      cases hx : x.operation with
      | updated => rfl
      | _ => exact absurd (hx ▸ ht) (by decide)
    exact hn (Details.validate_eq_ok_iff.mp (validate_of_updated hx hc))

/-- A message that is not spoiled can be read, and its envelope lacks nothing. -/
theorem exists_notice_of_not_spoiled (h : ¬ Spoiled payload) :
    ∃ x, Notice.ofBytes? payload = some x ∧ x.envelope.validate = .ok () := by
  cases he : Envelope.ofBytes? payload with
  | none => exact absurd (.unreadable he) h
  | some e =>
    cases hvalid : e.validate with
    | error err => exact absurd (.invalid he hvalid) h
    | ok _ =>
      cases ha : Announcement.ofValue? e.payload with
      | none =>
        refine absurd (.unreadablePayload he fun a hsays => ?_) h
        cases ha.symm.trans (Announcement.ofValue?_eq_some_iff.mpr hsays)
      | some a =>
        have htype : e.eventType ∈
            ["erp.fabric.created", "erp.fabric.updated", "erp.fabric.deleted"] := by
          by_contra ht
          exact h (.unknown he ht)
        have hop : ∃ op, e.eventType = (Subject.event .erp op).text := by
          simp only [List.mem_cons, List.not_mem_nil, or_false] at htype
          rcases htype with ht | ht | ht
          · exact ⟨.created, ht⟩
          · exact ⟨.updated, ht⟩
          · exact ⟨.deleted, ht⟩
        obtain ⟨op, hop⟩ := hop
        exact ⟨⟨e, op, a⟩, Notice.ofBytes?_eq_some_iff.mpr
          ⟨he, operation?_eq_some_iff.mpr hop, ha⟩, hvalid⟩

/-- **A message that is not spoiled becomes the command that it names.** -/
theorem exists_command (feed : Feed) (hx : Notice.ofBytes? payload = some x)
    (h : ¬ Spoiled payload) :
    ∃ c, feed.command x.version x.operation x.announcement = .ok c ∧
      Names feed x.envelope x.announcement c := by
  obtain ⟨he, hop, ha⟩ := Notice.ofBytes?_eq_some_iff.mp hx
  have hsays := Announcement.ofValue?_eq_some_iff.mp ha
  have htype := operation?_eq_some_iff.mp hop
  have hpos (ht : x.envelope.eventType ∈ ["erp.fabric.updated", "erp.fabric.deleted"]) :
      x.version ≠ 0 := fun h0 => h (.unversioned he ht h0)
  cases hx : x.operation with
  | created =>
    rw [hx] at htype
    exact ⟨_, hx ▸ command_of_created hx, .created htype (repeats_details hsays _)
      (fills_details hsays feed)⟩
  | updated =>
    rw [hx] at htype
    have hpos := hpos (by rw [htype]; decide)
    have hname : (x.announcement.details feed.defaults).Named := by
      by_contra hn
      exact h (.unnamed he htype hsays hn)
    exact ⟨_, hx ▸ command_of_updated hx hpos (Details.validate_eq_ok_iff.mpr hname),
      .updated htype (repeats_details hsays _) (Nat.succ_pred_eq_of_ne_zero hpos)⟩
  | deleted =>
    rw [hx] at htype
    have hpos := hpos (by rw [htype]; decide)
    exact ⟨_, hx ▸ command_of_deleted hx hpos, .deleted htype (Nat.succ_pred_eq_of_ne_zero hpos)⟩
  | reactivated =>
    rw [hx] at htype
    exact absurd (.unknown he (by rw [htype]; decide)) h

/-- What is made of a reply acknowledges it. -/
theorem acknowledges (r : Except CommandError Outcome) : Acknowledges r (acknowledgement r) := by
  cases r with
  | ok o => exact .done nofun
  | error err =>
    by_cases ht : err.Transient
    · have hkind := CommandError.isRetryable_iff.mpr ht
      rw [acknowledgement, if_pos (of_decide_eq_true hkind)]
      exact .again rfl ht
    · have hkind : err.kind ≠ .infrastructure := fun hk =>
        ht (CommandError.isRetryable_iff.mp (decide_eq_true hk))
      rw [acknowledgement, if_neg hkind]
      refine .done fun err' h => ?_
      cases h
      exact ht

/-- **The contract of the feed.** Whatever bytes come under whatever subject, and whatever the
service makes of a command: a message that is spoiled sets off nothing and is done with. Any other
sets off one command, the one that it names for what its payload says, as its envelope sets it off;
and it is to be delivered again just if the service fails in a way that may be gone then. -/
theorem handle_contract {σ : Type} (feed : Feed) (now : Instant) (m : Message)
    (answer : (i : Instruction) → σ → i.Reply × σ) (note : Remark → σ → σ) (s : σ) :
    let calls := (feed.handle now m).exchanges answer note s
    let result := ((feed.handle now m).run answer note s).1
    (Spoiled m.payload → calls = [] ∧ result = .ok ()) ∧
    (¬ Spoiled m.payload → ∃ e a i, Envelope.ofBytes? m.payload = some e ∧
      Says e.payload a ∧ Names feed e a i.command ∧ SetOff feed now e i.invocation ∧
      calls = [⟨i, (answer i s).1⟩] ∧ Acknowledges (answer i s).1 result) := by
  intro calls result
  refine ⟨fun h => ?_, fun h => ?_⟩
  · cases hi : feed.instruction now m.payload with
    | ok i => exact absurd h (not_spoiled_of_instruction hi)
    | error reason =>
      have hhandle : feed.handle now m = drop reason := by rw [handle, hi]
      simp only [calls, result, hhandle]
      exact ⟨rfl, rfl⟩
  · obtain ⟨x, hx, hv⟩ := exists_notice_of_not_spoiled h
    obtain ⟨c, hc, hnames⟩ := exists_command feed hx h
    obtain ⟨he, -, ha⟩ := Notice.ofBytes?_eq_some_iff.mp hx
    have hi := instruction_of_notice feed now hx hv
    rw [hc] at hi
    have hhandle : feed.handle now m = .ask ⟨feed.invocation now x.envelope, c⟩ settle := by
      rw [handle, hi]
      rfl
    refine ⟨_, _, ⟨feed.invocation now x.envelope, c⟩, he,
      Announcement.ofValue?_eq_some_iff.mp ha, hnames,
      setOff_invocation feed now x.envelope, ?_⟩
    obtain ⟨r, hr⟩ := exists_remark (answer ⟨feed.invocation now x.envelope, c⟩ s).1
    simp only [calls, result, hhandle, Dialogue.exchanges, Dialogue.run, hr, true_and]
    exact acknowledges _

end Feed

end Inbound

end FabricRegistry
