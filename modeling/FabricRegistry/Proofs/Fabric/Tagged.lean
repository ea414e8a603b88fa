import FabricRegistry.Proofs.Fabric.Body

/-!
The tagged form of a fact. It is the body with a member that names the operation, and the fact is
read back from it (`Fact.ofValue_tagged`). A value that denotes a fact denotes one with a version of
64 bits, which has its own tagged form back, whatever the value looked like
(`Fact.ofValue_tagged_of_ofValue`).
-/

namespace FabricRegistry

/-- the object with a member set to a value; what is no object is left as it is -/
def Json.Value.withMember (w : Json.Value) (key : String) (v : Json.Value) : Json.Value :=
  match w with
  | .object members => .object (Json.insertMember key v members)
  | w => w

theorem Json.Value.natural?_lt {v : Json.Value} {bound n : ℕ} (h : v.natural? bound = some n) :
    n < bound := by
  unfold natural? at h
  split at h
  · split at h
    · next hlt =>
      cases h
      exact hlt
    · cases h
  · cases h

namespace Fact

variable {x : Fact} {op : Operation} {v : Json.Value}

/-! ### The form -/

/-- The tagged form is an object with its members in ascending order. -/
theorem tagged_eq (x : Fact) : x.tagged = .object (("code", .string x.code.text) ::
    match x.change.details? with
    | some d => [("measure_unit", .string d.measureUnit), ("name", .string d.name),
        ("offer_status", .string d.offerStatus), ("type", .string x.operation.text),
        ("version", .int x.version)]
    | none => [("type", .string x.operation.text), ("version", .int x.version)]) := by
  obtain ⟨code, version, change⟩ := x
  cases change <;> rfl

/-- **The tagged form is the body with the operation in it.** -/
theorem withMember_body (x : Fact) :
    x.body.withMember "type" (.string x.operation.text) = x.tagged := by
  rw [body_eq, tagged_eq]
  cases x.change.details? <;> rfl

/-- **The tagged form denotes the fact.** -/
theorem ofValue_tagged (h : x.version < 2 ^ 64) : ofValue x.tagged = .ok x := by
  have hop : Operation.ofString? x.operation.text = some x.operation :=
    Operation.ofString?_eq_some_iff.mpr rfl
  have hbody := x.ofBody_body h
  rw [body_eq] at hbody
  rw [tagged_eq]
  -- without its tag the object is the body
  cases hd : x.change.details? <;>
    simpa [ofValue, List.lookup_cons, operationOfTag?, hop, DecodeError.orMalformed, hd] using hbody

/-! ### Values that denote a fact -/

theorem orMalformed_eq_ok_iff {α : Type} {o : Option α} {a : α} :
    DecodeError.orMalformed o = .ok a ↔ o = some a := by
  cases o <;> simp [DecodeError.orMalformed]

theorem lt_of_required? {given : Json.Fields Json.Value} {name : String} {bound n : ℕ}
    (h : given.required? name (Json.Value.natural? bound) = some n) : n < bound := by
  obtain ⟨v, -, hv⟩ := Option.bind_eq_some_iff.mp h
  exact Json.Value.natural?_lt hv

/-- A fact that is read from a body has a version of 64 bits. -/
theorem version_of_ofBody {body : Json.Value} (h : ofBody op body = .ok x) :
    x.version < 2 ^ 64 := by
  unfold ofBody at h
  split at h
  · simp only [pure_eq_ok, ok_bind, bind_eq_ok_iff, orMalformed_eq_ok_iff, if_true,
      Except.ok.injEq] at h
    obtain ⟨_, -, code, -, change, -, version, hversion, rfl⟩ := h
    exact lt_of_required? hversion
  · simp only [pure_eq_ok, ok_bind, bind_eq_ok_iff, orMalformed_eq_ok_iff] at h
    obtain ⟨_, -, code, -, change, -, version, hversion, h⟩ := h
    split at h
    · cases h
      exact lt_of_required? hversion
    · cases h
  · cases h

theorem version_of_ofValue (h : ofValue v = .ok x) : x.version < 2 ^ 64 := by
  unfold ofValue at h
  split at h
  · obtain ⟨op, -, h⟩ := bind_eq_ok_iff.mp h
    exact version_of_ofBody h
  · obtain ⟨op, -, h⟩ := bind_eq_ok_iff.mp h
    exact version_of_ofBody h
  · cases h

/-- **What is read is written and read again as it is.** -/
theorem ofValue_tagged_of_ofValue (h : ofValue v = .ok x) : ofValue x.tagged = .ok x :=
  ofValue_tagged (version_of_ofValue h)

end Fact

end FabricRegistry
