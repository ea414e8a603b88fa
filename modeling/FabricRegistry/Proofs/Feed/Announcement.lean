import FabricRegistry.Inbound.Feed
import FabricRegistry.Proofs.Lookup

/-!
What the payload of an ERP event says of a fabric. It is an object, in which members of other names
are skipped, or an array that has its fields in their order. Any field may be left out: the code and
the name are empty then, and the unit and the offer status are not given, as if they were null
(`Says`). The announcement that is read of a payload is the one that it says, and where it says
none, nothing is read (`ofValue?_eq_some_iff`).
-/

namespace FabricRegistry.Inbound

/-- What a payload has in its fields, by their names: an object has the members of these names, and
an array the items in the places of the fields, of which it has no more than there are fields. -/
inductive HasFields : Json.Value → (String → Option Json.Value) → Prop where
  | object (members : List (String × Json.Value)) : HasFields (.object members) (members.lookup ·)
  | array {items : List Json.Value} (h : items.length ≤ 4) :
      HasFields (.array items)
        ((["fabric_code", "fabric_name", "measure_unit", "offer_status"].zip items).lookup ·)

/-- The field has a text, the empty one where it is left out. -/
inductive HoldsText : Option Json.Value → String → Prop where
  | leftOut : HoldsText none ""
  | given (s : String) : HoldsText (some (.string s)) s

/-- The field has a text, or none where it is left out or null. -/
inductive HoldsOptional : Option Json.Value → Option String → Prop where
  | leftOut : HoldsOptional none none
  | null : HoldsOptional (some .null) none
  | given (s : String) : HoldsOptional (some (.string s)) (some s)

/-- The announcement has what is in the fields. -/
structure Announcement.HeldBy (field : String → Option Json.Value) (a : Announcement) : Prop where
  code : HoldsText (field "fabric_code") a.code
  name : HoldsText (field "fabric_name") a.name
  measureUnit : HoldsOptional (field "measure_unit") a.measureUnit
  offerStatus : HoldsOptional (field "offer_status") a.offerStatus

/-- A payload says an announcement. -/
def Says (v : Json.Value) (a : Announcement) : Prop := ∃ field, HasFields v field ∧ a.HeldBy field

variable {v : Json.Value} {a : Announcement} {field field' : String → Option Json.Value}
  {fields : Json.Fields Json.Value} {name : String}

/-! ### Fields -/

theorem HasFields.unique (h : HasFields v field) (h' : HasFields v field') : field = field' := by
  cases h <;> cases h' <;> rfl

/-- A payload that has fields is read as a record, and the record has the same in them. -/
theorem HasFields.exists_fields (h : HasFields v field) :
    ∃ fields, v.fields? Announcement.fieldNames = some fields ∧
      ∀ name ∈ Announcement.fieldNames, fields.lookup name = field name := by
  cases h with
  | object members =>
    refine ⟨_, rfl, fun name hname => ?_⟩
    rw [lookup_filter, if_pos (List.contains_iff_mem.mpr hname)]
  | array hlength => exact ⟨_, if_pos hlength, fun _ _ => rfl⟩

theorem exists_hasFields (h : v.fields? Announcement.fieldNames = some fields) :
    ∃ field, HasFields v field := by
  cases v with
  | object members => exact ⟨_, .object members⟩
  | array items =>
    obtain ⟨hlength, -⟩ := Option.ite_none_right_eq_some.mp h
    exact ⟨_, .array hlength⟩
  | _ => cases h

theorem withDefault?_string {s : String} :
    fields.withDefault? name "" Json.Value.string? = some s ↔ HoldsText (fields.lookup name) s := by
  rw [Json.Fields.withDefault?_eq_some_iff]
  constructor
  · rintro (⟨hfield, rfl⟩ | ⟨given, hfield, hgiven⟩) <;> rw [hfield]
    · exact .leftOut
    · cases given <;> cases hgiven
      exact .given s
  · intro h
    generalize fields.lookup name = held at h
    cases h with
    | leftOut => exact Or.inl ⟨rfl, rfl⟩
    | given s => exact Or.inr ⟨_, rfl, rfl⟩

theorem withDefault?_optionalString {text : Option String} :
    fields.withDefault? name none Json.Value.optionalString? = some text ↔
      HoldsOptional (fields.lookup name) text := by
  rw [Json.Fields.withDefault?_eq_some_iff]
  constructor
  · rintro (⟨hfield, rfl⟩ | ⟨given, hfield, hgiven⟩) <;> rw [hfield]
    · exact .leftOut
    · cases given <;> cases hgiven
      · exact .null
      · exact .given _
  · intro h
    generalize fields.lookup name = held at h
    cases h with
    | leftOut => exact Or.inl ⟨rfl, rfl⟩
    | null => exact Or.inr ⟨_, rfl, rfl⟩
    | given s => exact Or.inr ⟨_, rfl, rfl⟩

/-! ### Announcements -/

namespace Announcement

/-- Only the four fields of an announcement matter to it. -/
theorem HeldBy.congr (h : a.HeldBy field) (heq : ∀ name ∈ fieldNames, field name = field' name) :
    a.HeldBy field' where
  code := heq "fabric_code" (by decide) ▸ h.code
  name := heq "fabric_name" (by decide) ▸ h.name
  measureUnit := heq "measure_unit" (by decide) ▸ h.measureUnit
  offerStatus := heq "offer_status" (by decide) ▸ h.offerStatus

theorem ofValue?_eq_some_iff_fields : ofValue? v = some a ↔
    ∃ fields, v.fields? fieldNames = some fields ∧ a.HeldBy (fields.lookup ·) := by
  simp only [ofValue?, Option.bind_eq_bind, Option.bind_eq_some_iff, withDefault?_string,
    withDefault?_optionalString, Option.pure_def, Option.some.injEq]
  constructor
  · rintro ⟨fields, hfields, code, hcode, name, hname, unit, hunit, status, hstatus, rfl⟩
    exact ⟨fields, hfields, hcode, hname, hunit, hstatus⟩
  · rintro ⟨fields, hfields, hcode, hname, hunit, hstatus⟩
    exact ⟨fields, hfields, _, hcode, _, hname, _, hunit, _, hstatus, rfl⟩

/-- **What is read of a payload is what it says.** -/
theorem ofValue?_eq_some_iff : ofValue? v = some a ↔ Says v a := by
  rw [ofValue?_eq_some_iff_fields]
  constructor
  · rintro ⟨fields, hfields, ha⟩
    obtain ⟨field, hfield⟩ := exists_hasFields hfields
    obtain ⟨fields', hfields', hlookup⟩ := hfield.exists_fields
    obtain rfl := Option.some.inj (hfields.symm.trans hfields')
    exact ⟨field, hfield, ha.congr hlookup⟩
  · rintro ⟨field, hfield, ha⟩
    obtain ⟨fields, hfields, hlookup⟩ := hfield.exists_fields
    exact ⟨fields, hfields, ha.congr fun name hname => (hlookup name hname).symm⟩

end Announcement

end FabricRegistry.Inbound
