import FabricRegistry.Envelope
import FabricRegistry.Proofs.Except
import FabricRegistry.Proofs.Fabric.Replay
import FabricRegistry.Proofs.Subject.EventType
import Mathlib.Algebra.Group.Nat.Defs

/-!
Facts in envelopes. The body of a fact is written out with its members in ascending order, and from
it and the operation that the event type names the fact is read back, as long as its version fits
the 64 bits that a reader allows for it (`Envelope.fact?_ofFact`). An envelope of a fact lacks
nothing.
-/

namespace FabricRegistry

namespace Fact

variable (x : Fact)

/-- The body is an object with its members in ascending order. -/
theorem body_eq : x.body = .object (("code", .string x.code.text) ::
    match x.change.details? with
    | some d => [("measure_unit", .string d.measureUnit), ("name", .string d.name),
        ("offer_status", .string d.offerStatus), ("version", .int x.version)]
    | none => [("version", .int x.version)]) := by
  obtain ⟨code, version, change⟩ := x
  cases change <;> rfl

theorem ofBody_body (h : x.version < 2 ^ 64) : ofBody x.operation x.body = .ok x := by
  rw [body_eq]
  obtain ⟨code, version, change⟩ := x
  have hv : version < UInt64.size := h
  cases change <;>
    simp [ofBody, operation, Change.operation, Change.details?, changeOfFields?, List.lookup_cons,
      Json.Fields.required?, Json.Value.string?, Json.Value.natural?, Code.ofValue,
      Code.ofString_text, DecodeError.orMalformed, hv]

theorem parseEventType?_eventType :
    Subject.parseEventType? x.eventType = some (.app, x.operation) :=
  Subject.parseEventType?_eq_some_iff.mpr rfl

theorem eventType_ne_empty : x.eventType ≠ "" := by
  unfold eventType
  generalize x.operation = op
  cases op <;> decide

end Fact

theorem Code.text_injective {a b : Code} (h : a.text = b.text) : a = b := by
  have ha := ofString_text a
  rw [h, ofString_text b] at ha
  cases ha
  rfl

theorem Code.text_ne_empty (code : Code) : code.text ≠ "" := by
  intro h
  have := code.length_mem.1
  simp [h] at this

namespace Envelope

variable (stamp : Stamp) (x : Fact) (p : Provenance)

@[simp] theorem key_ofFact : (ofFact stamp x p).key = (x.code.text, x.version) := rfl
@[simp] theorem aggregateId_ofFact : (ofFact stamp x p).aggregateId = x.code.text := rfl
@[simp] theorem aggregateVersion_ofFact : (ofFact stamp x p).aggregateVersion = x.version := rfl

theorem validate_ofFact : (ofFact stamp x p).validate = .ok () := by
  have hpayload : hasContent x.body = true := by
    rw [Fact.body_eq]
    rfl
  have htype : fabricType ≠ "" := by decide
  simp [validate, ofFact, new, x.eventType_ne_empty, x.code.text_ne_empty, htype, hpayload]

/-- the fact that the event type and the payload of an envelope tell -/
def fact? (e : Envelope) : Option Fact :=
  match Subject.parseEventType? e.eventType with
  | some (.app, op) => (Fact.ofBody op e.payload).toOption
  | _ => none

/-- **The envelope of a fact tells the fact.** -/
theorem fact?_ofFact (h : x.version < 2 ^ 64) : (ofFact stamp x p).fact? = some x := by
  have htype : (ofFact stamp x p).eventType = x.eventType := rfl
  have hpayload : (ofFact stamp x p).payload = x.body := rfl
  simp [fact?, htype, hpayload, x.parseEventType?_eventType, x.ofBody_body h, Except.toOption]

end Envelope

end FabricRegistry
