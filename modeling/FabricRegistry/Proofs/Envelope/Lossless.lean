import FabricRegistry.Broker.Client
import FabricRegistry.Proofs.Command.Written
import FabricRegistry.Proofs.Database.Recording
import FabricRegistry.Proofs.Fabric.Tagged

/-!
What is kept of a fact in its envelope. The envelope lacks nothing, so neither trail refuses it as
invalid, in whatever batch it stands, and every outlet takes it. The fact is read back from the
event type and the payload alone (`Fact.recover?`). Main statement: `Envelope.ofFact_lossless`.
-/

namespace FabricRegistry

open Dialogue

/-- the fact that an event type and a payload tell, by way of its tagged form -/
def Fact.recover? (eventType : String) (payload : Json.Value) : Option Fact := do
  let (_, op) ← Subject.parseEventType? eventType
  (ofValue (payload.withMember "type" (.string op.text))).toOption

/-- **A fact is recovered from its event type and its body.** -/
theorem Fact.recover?_eventType_body {x : Fact} (h : x.version < 2 ^ 64) :
    recover? x.eventType x.body = some x := by
  simp [recover?, x.parseEventType?_eventType, x.withMember_body, ofValue_tagged h, Except.toOption]

/-! ### Trails -/

namespace Trail.Ledger

variable {taken : List (String × ℕ)} {batch : List Envelope} {lack : EnvelopeError}

theorem exists_lack_of_checkBatch (h : checkBatch taken batch = .error (.invalidEnvelope lack)) :
    ∃ d ∈ batch, d.validate = .error lack := by
  induction batch generalizing taken with
  | nil => cases h
  | cons e rest ih =>
    unfold checkBatch at h
    cases hv : e.validate with
    | error err =>
      rw [hv] at h
      cases h
      exact ⟨e, List.mem_cons_self, hv⟩
    | ok _ =>
      rw [hv, mapError_ok, ok_bind] at h
      split at h
      · cases h
      · obtain ⟨d, hd, hlack⟩ := ih h
        exact ⟨d, List.mem_cons_of_mem e hd, hlack⟩

/-- A batch that is refused as invalid has an envelope that lacks something. -/
theorem exists_lack_of_append {l : Ledger}
    (h : (l.append batch).1 = .error (.invalidEnvelope lack)) :
    ∃ d ∈ batch, d.validate = .error lack := by
  unfold append at h
  cases hcheck : checkBatch l.keys batch with
  | ok keys =>
    rw [hcheck] at h
    cases h
  | error err =>
    rw [hcheck] at h
    cases h
    exact exists_lack_of_checkBatch hcheck

end Trail.Ledger

namespace Envelope

variable {e : Envelope} {earlier later : List Envelope} {lack : EnvelopeError}

/-- Where one envelope of a batch lacks nothing, another one lacks what is missing. -/
theorem exists_other_lack (he : e.validate = .ok ())
    (h : ∃ d ∈ earlier ++ e :: later, d.validate = .error lack) :
    ∃ d ∈ earlier ++ later, d.validate = .error lack := by
  obtain ⟨d, hd, hlack⟩ := h
  rcases List.mem_append.mp hd with hearlier | hlater
  · exact ⟨d, List.mem_append_left later hearlier, hlack⟩
  · rcases List.mem_cons.mp hlater with rfl | hlater
    · cases he.symm.trans hlack
    · exact ⟨d, List.mem_append_right earlier hlater, hlack⟩

/-- **An envelope that lacks nothing is sent.** -/
theorem always_publish (he : e.validate = .ok ()) (subject : String) :
    Always (Broker.publish subject e) fun calls r =>
      (∃ reply, calls = [⟨.send subject e.bytes, reply⟩]) ∧
        ∀ lack, r ≠ .error (.invalidEnvelope lack) := by
  refine always_of_transcript fun calls r h => ?_
  have hpublishable : e.publishable = .ok () := by rw [publishable, he, mapError_ok]
  rw [Broker.publish, hpublishable] at h
  obtain ⟨reply, rest, rfl, hrest⟩ := transcript_ask_iff.mp h
  cases reply with
  | error reason =>
    obtain ⟨rfl, rfl⟩ := transcript_done_iff.mp hrest
    exact ⟨⟨.error reason, rfl⟩, nofun⟩
  | ok reply =>
    obtain ⟨rfl, rfl⟩ := transcript_done_iff.mp
      (transcript_remark_iff.mp (transcript_remark_iff.mp hrest))
    exact ⟨⟨.ok reply, rfl⟩, nofun⟩

/-- **Nothing of a fact is lost in its envelope.** The envelope of a fact with a version of 64 bits
lacks nothing: a batch that has it is refused as invalid, by the trail in memory or by the one in a
database that replies what it likes, only for what another envelope lacks, and both the silent
outlet and the broker take it. Its event type names `app` and the operation, its aggregate and
version are the code and the version of the fact, and the event type and the payload alone give the
fact back. So does the tagged form; and whatever value denotes a fact, that fact has a code that
obeys the rules and is denoted by its own tagged form. -/
theorem ofFact_lossless (stamp : Stamp) (x : Fact) (p : Provenance) (hx : x.version < 2 ^ 64) :
    let e := ofFact stamp x p
    e.validate = .ok () ∧
    (∀ (l : Trail.Ledger) (earlier later : List Envelope) (lack : EnvelopeError),
      (l.append (earlier ++ e :: later)).1 = .error (.invalidEnvelope lack) →
        ∃ d ∈ earlier ++ later, d.validate = .error lack) ∧
    (∀ earlier later : List Envelope,
      Always (Database.appendEvents (earlier ++ e :: later)) fun _ r =>
        ∀ lack, r = .error (.invalidEnvelope lack) →
          ∃ d ∈ earlier ++ later, d.validate = .error lack) ∧
    e.publishable = .ok () ∧
    (∀ subject, Always (Broker.publish subject e) fun calls r =>
      (∃ reply, calls = [⟨.send subject e.bytes, reply⟩]) ∧
        ∀ lack, r ≠ .error (.invalidEnvelope lack)) ∧
    Subject.parseEventType? e.eventType = some (.app, x.operation) ∧
    e.aggregateId = x.code.text ∧ e.aggregateVersion = x.version ∧
    Fact.recover? e.eventType e.payload = some x ∧
    Fact.ofValue x.tagged = .ok x ∧
    ∀ v y, Fact.ofValue v = .ok y → IsCodeText y.code.text ∧ Fact.ofValue y.tagged = .ok y := by
  intro e
  have he : e.validate = .ok () := validate_ofFact stamp x p
  refine ⟨he, fun l earlier later lack h => ?_, fun earlier later => ?_, ?_, always_publish he,
    x.parseEventType?_eventType, rfl, rfl, Fact.recover?_eventType_body hx, Fact.ofValue_tagged hx,
    fun v y h => ⟨y.code.isCodeText, Fact.ofValue_tagged_of_ofValue h⟩⟩
  · exact exists_other_lack he (Trail.Ledger.exists_lack_of_append h)
  · refine always_of_transcript fun calls r htranscript lack h => ?_
    have hrecording := Database.recording_of_appendEvents htranscript
    rw [h] at hrecording
    exact exists_other_lack he hrecording.exists_lack
  · rw [publishable, he, mapError_ok]

/-- a return at the last version of 64 bits, to an empty name -/
def lastReturn : Fact :=
  ⟨⟨"A0", by decide, by decide⟩, 2 ^ 64 - 1, .reactivated ⟨"", "\n", "type"⟩⟩

theorem ofFact_lossless_lastReturn : lastReturn.version < 2 ^ 64 ∧
    (ofFact default lastReturn {}).validate = .ok () ∧
    Fact.recover? "app.fabric.reactivated" lastReturn.body = some lastReturn ∧
    Fact.ofValue lastReturn.tagged = .ok lastReturn := by
  have hversion : lastReturn.version < 2 ^ 64 := by decide
  obtain ⟨hvalid, -, -, -, -, -, -, -, hrecover, htagged, -⟩ :=
    ofFact_lossless default lastReturn {} hversion
  have htype : (ofFact default lastReturn {}).eventType = "app.fabric.reactivated" := rfl
  rw [htype] at hrecover
  exact ⟨hversion, hvalid, hrecover, htagged⟩

end Envelope

end FabricRegistry
