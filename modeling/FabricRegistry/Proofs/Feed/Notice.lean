import FabricRegistry.Inbound.Feed
import FabricRegistry.Proofs.Command.Revision
import FabricRegistry.Proofs.Subject.EventType

/-!
What a message tells, and the command that it becomes. A message that can be read is a `Notice`; an
instruction comes of a notice only, of one whose envelope lacks nothing. The notice of an update or
of a deletion becomes a `Revision` of the version before its own.
-/

namespace FabricRegistry.Inbound

/-- what a message of the ERP system tells -/
structure Notice where
  envelope : Envelope
  operation : Operation
  announcement : Announcement

namespace Notice

/-- the version that the event led to -/
def version (x : Notice) : ℕ := x.envelope.aggregateVersion

/-- the code of the fabric that the event is about, which need not be a valid one -/
def code (x : Notice) : String := x.announcement.code

/-- The notice names a version to start from: it tells of an update or a deletion. -/
def Revises (x : Notice) : Prop := x.operation = .updated ∨ x.operation = .deleted

/-- the notice that an envelope tells -/
def ofEnvelope? (e : Envelope) : Option Notice := do
  let op ← Feed.operation? e.eventType
  let a ← Announcement.ofValue? e.payload
  return ⟨e, op, a⟩

/-- the notice that a message in bytes tells -/
def ofBytes? (payload : ByteArray) : Option Notice := Envelope.ofBytes? payload >>= ofEnvelope?

variable {payload : ByteArray} {x : Notice}

theorem ofBytes?_eq_some_iff : ofBytes? payload = some x ↔
    Envelope.ofBytes? payload = some x.envelope ∧
      Feed.operation? x.envelope.eventType = some x.operation ∧
      Announcement.ofValue? x.envelope.payload = some x.announcement := by
  constructor
  · intro h
    obtain ⟨e, he, h⟩ := Option.bind_eq_some_iff.mp h
    obtain ⟨op, hop, h⟩ := Option.bind_eq_some_iff.mp h
    obtain ⟨a, ha, h⟩ := Option.bind_eq_some_iff.mp h
    cases h
    exact ⟨he, hop, ha⟩
  · rintro ⟨he, hop, ha⟩
    simp [ofBytes?, ofEnvelope?, he, hop, ha]

end Notice

namespace Feed

theorem operation?_eq_some_iff {s : String} {op : Operation} :
    operation? s = some op ↔ s = (Subject.event .erp op).text := by
  rw [← Subject.parseEventType?_eq_some_iff, operation?]
  split
  · next found h => simp [h]
  · next h => exact iff_of_false nofun (h op)

variable {feed : Feed} {now : Instant} {payload : ByteArray} {x : Notice} {i : Instruction}
  {c : Command}

/-- A notice becomes the command of its announcement, unless its envelope lacks something. -/
theorem instruction_of_notice (feed : Feed) (now : Instant)
    (hx : Notice.ofBytes? payload = some x) (hv : x.envelope.validate = .ok ()) :
    feed.instruction now payload =
      (feed.command x.version x.operation x.announcement).map
        (⟨feed.invocation now x.envelope, ·⟩) := by
  obtain ⟨he, hop, ha⟩ := Notice.ofBytes?_eq_some_iff.mp hx
  simp only [instruction, he, ok_bind, hv, mapError_ok, hop, ha]
  rfl

/-- An instruction comes of a notice whose envelope lacks nothing. -/
theorem exists_notice (h : feed.instruction now payload = .ok i) :
    ∃ x, Notice.ofBytes? payload = some x ∧ x.envelope.validate = .ok () ∧
      i.invocation = feed.invocation now x.envelope ∧
      feed.command x.version x.operation x.announcement = .ok i.command := by
  unfold instruction at h
  cases he : Envelope.ofBytes? payload with
  | none => simp [he] at h
  | some e =>
    cases hv : e.validate with
    | error err => simp [he, hv] at h
    | ok _ =>
      cases hop : operation? e.eventType with
      | none => simp [he, hv, hop] at h
      | some op =>
        cases ha : Announcement.ofValue? e.payload with
        | none => simp [he, hv, hop, ha] at h
        | some a =>
          refine ⟨⟨e, op, a⟩, Notice.ofBytes?_eq_some_iff.mpr ⟨he, hop, ha⟩, hv, ?_⟩
          simp only [he, hv, hop, ha, ok_bind, mapError_ok] at h
          cases hc : feed.command e.aggregateVersion op a with
          | error reason => simp [hc] at h
          | ok c =>
            simp only [hc, ok_bind, pure_eq_ok, Except.ok.injEq] at h
            subst h
            exact ⟨rfl, hc⟩

/-- At another moment a message becomes the same command, from the same. -/
theorem instruction_at (h : feed.instruction now payload = .ok i) (moment : Instant) :
    ∃ i', feed.instruction moment payload = .ok i' ∧ i'.command = i.command ∧
      i'.invocation.provenance = i.invocation.provenance := by
  obtain ⟨x, hx, hv, hinvocation, hc⟩ := exists_notice h
  have hi := instruction_of_notice feed moment hx hv
  rw [hc] at hi
  exact ⟨_, hi, rfl, by simp [hinvocation]⟩

/-- A message that becomes nothing becomes nothing at any moment. -/
theorem dropped_at {reason : String} (h : feed.instruction now payload = .error reason)
    (moment : Instant) : ∃ reason', feed.instruction moment payload = .error reason' := by
  cases h' : feed.instruction moment payload with
  | error reason' => exact ⟨reason', rfl⟩
  | ok i =>
    obtain ⟨i', hi', -⟩ := instruction_at h' now
    rw [h] at hi'
    cases hi'

theorem command_of_created (hx : x.operation = .created) :
    feed.command x.version x.operation x.announcement =
      .ok (.create x.code (x.announcement.details feed.defaults)) := by
  rw [hx]
  rfl

theorem command_of_updated (hx : x.operation = .updated) (h0 : x.version ≠ 0)
    (hd : (x.announcement.details feed.defaults).validate = .ok ()) :
    feed.command x.version x.operation x.announcement =
      .ok (.update x.code (x.announcement.details feed.defaults) (x.version - 1)) := by
  simp only [hx, command, h0, hd, if_false]
  rfl

theorem command_of_deleted (hx : x.operation = .deleted) (h0 : x.version ≠ 0) :
    feed.command x.version x.operation x.announcement =
      .ok (.delete x.code (x.version - 1)) := by
  simp only [hx, command, h0, if_false]
  rfl

/-- An update has a name that breaks no rule. -/
theorem validate_of_updated (hx : x.operation = .updated)
    (h : feed.command x.version x.operation x.announcement = .ok c) :
    (x.announcement.details feed.defaults).validate = .ok () := by
  cases hd : (x.announcement.details feed.defaults).validate with
  | ok _ => rfl
  | error e => by_cases h0 : x.version = 0 <;> simp [hx, command, h0, hd] at h

/-- **An update or a deletion starts from the version before the one that it led to.** -/
theorem command_of_revises (hx : x.Revises)
    (h : feed.command x.version x.operation x.announcement = .ok c) :
    1 ≤ x.version ∧ ∃ rev : Revision, c = rev.command x.code (x.version - 1) := by
  have hpos : x.version ≠ 0 := by
    intro h0
    rcases hx with hx | hx <;> simp [hx, command, h0] at h
  refine ⟨Nat.one_le_iff_ne_zero.mpr hpos, ?_⟩
  rcases hx with hx | hx
  · rw [command_of_updated hx hpos (validate_of_updated hx h)] at h
    exact ⟨.update _, (Except.ok.inj h).symm⟩
  · rw [command_of_deleted hx hpos] at h
    exact ⟨.delete, (Except.ok.inj h).symm⟩

/-- The command of a notice names its code. -/
theorem codeText_of_command (h : feed.command x.version x.operation x.announcement = .ok c) :
    c.codeText = x.code := by
  cases hx : x.operation with
  | created =>
    rw [command_of_created hx] at h
    exact Except.ok.inj h ▸ rfl
  | updated =>
    obtain ⟨-, rev, rfl⟩ := command_of_revises (Or.inl hx) h
    cases rev <;> rfl
  | deleted =>
    obtain ⟨-, rev, rfl⟩ := command_of_revises (Or.inr hx) h
    cases rev <;> rfl
  | reactivated =>
    rw [hx] at h
    cases h

/-! ### What becomes of a message -/

/-- what the feed is told of a result: only a failure of the infrastructure is one for it too -/
def acknowledgement : Except CommandError Outcome → Handled
  | .ok _ => .ok ()
  | .error e => if e.kind = .infrastructure then .error (.command e) else .ok ()

/-- What is made of a result is a remark and the acknowledgement. -/
theorem exists_remark (r : Except CommandError Outcome) :
    ∃ m, settle r = .remark m (.done (acknowledgement r)) := by
  cases r with
  | ok o => exact ⟨_, rfl⟩
  | error e =>
    unfold settle acknowledgement
    dsimp only
    cases hk : e.kind <;> exact ⟨_, rfl⟩

end Feed

/-! ### Messages in characters -/

namespace Notice

/-- the notice that a message in characters tells -/
def ofChars? (text : List Char) : Option Notice := do
  ofEnvelope? (← Envelope.ofTree? (← Json.Tree.read? (text.map some)))

theorem ofBytes?_toUTF8 (text : List Char) :
    ofBytes? (String.ofList text).toUTF8 = ofChars? text := by
  simp only [ofBytes?, Envelope.ofBytes?, Json.Tree.ofBytes?, Text.decode_toUTF8,
    String.toList_ofList, ofChars?, Option.bind_eq_bind, Option.bind_assoc]

/-- A message can be read, its envelope lacks nothing, and this is what it tells. -/
def Told (payload : ByteArray) (op : Operation) (version : ℕ) (a : Announcement) : Prop :=
  ∃ x, ofBytes? payload = some x ∧ x.envelope.validate = .ok () ∧ x.operation = op ∧
    x.version = version ∧ x.announcement = a

theorem told_of_ofChars? {text : List Char} {op : Operation} {version : ℕ} {a : Announcement}
    (h : ((ofChars? text).any fun x => x.envelope.validate.isOk && x.operation = op &&
      x.version = version && x.announcement = a) = true) :
    Told (String.ofList text).toUTF8 op version a := by
  rw [Option.any_eq_true] at h
  obtain ⟨x, hx, hall⟩ := h
  simp only [Bool.and_eq_true, decide_eq_true_eq] at hall
  obtain ⟨⟨⟨hv, hop⟩, hversion⟩, ha⟩ := hall
  refine ⟨x, (ofBytes?_toUTF8 text).trans hx, ?_, hop, hversion, ha⟩
  cases he : x.envelope.validate with
  | ok u => rfl
  | error e =>
    rw [he] at hv
    cases hv

/-- the creation of a linen, as the ERP system writes it -/
def linenCreatedText : String :=
  "\x7b\"event_id\": \"00000000000000000000000000000001\",
  \"event_type\": \"erp.fabric.created\", \"aggregate_id\": \"LN100\",
  \"aggregate_type\": \"fabric\", \"aggregate_version\": 1, \"timestamp\": \"2025-01-01T00:00:00Z\",
  \"payload\": \x7b\"fabric_code\": \"LN100\", \"fabric_name\": \"Linen\",
  \"measure_unit\": \"m\", \"offer_status\": \"NEW\"\x7d\x7d"

@[irreducible] def linenCreated : ByteArray := linenCreatedText.toUTF8

set_option maxRecDepth 4000 in
theorem told_linenCreated :
    Told linenCreated .created 1 ⟨"LN100", "Linen", some "m", some "NEW"⟩ := by
  unfold linenCreated
  exact told_of_ofChars? (by decide +kernel)

end Notice

end FabricRegistry.Inbound
