import FabricRegistry.Envelope
import FabricRegistry.Proofs.Envelope.Identity
import FabricRegistry.Proofs.Json.Meaning
import FabricRegistry.Proofs.Json.Record
import FabricRegistry.Proofs.Time.Text

/-!
Envelopes as they are sent. What is written of an envelope is read as its members, every member is
read back by itself, and so the envelope is decoded from what it is encoded as. An envelope that was
decoded can be encoded and decoded any number of times more (`wire_round_trip`).

There is one exception. The decoder takes an object whose first member has a certain name for the
wrapping of another value, and the encoder writes such an object like any other: an envelope with
one in its payload may not be decoded at all (`wire_loses_wrapping`).
-/

namespace FabricRegistry

open Json (Reads Value Tree Fields)

namespace Envelope

variable {e : Envelope} {bytes : ByteArray}

/-! ### The members of an envelope -/

/-- the fields of what is written of an envelope -/
def fields (e : Envelope) : Fields Tree := e.members.map fun m => (m.1, m.2.tree)

theorem lookup_optionalMember (name member : String) (text : Option String) :
    (optionalMember member text).lookup name =
      if name = member then text.map Value.string else none := by
  cases text <;> grind [optionalMember]

theorem names_optionalMember (member : String) (text : Option String) :
    ((optionalMember member text).map Prod.fst).Sublist [member] := by
  cases text with
  | none => exact List.nil_sublist _
  | some s => exact List.Sublist.refl _

theorem names_sublist (e : Envelope) : (e.members.map Prod.fst).Sublist fieldNames := by
  simp only [members, List.map_append]
  exact ((((List.Sublist.refl _).append (names_optionalMember "correlation_id" _)).append
    (names_optionalMember "causation_id" _)).append (names_optionalMember "user_id" _)).append
      (List.Sublist.refl ["payload"])

theorem lookup_fields (e : Envelope) (name : String) :
    e.fields.lookup name = (e.members.lookup name).map Value.tree := lookup_map _ _ _

theorem lookup_payload (e : Envelope) : e.members.lookup "payload" = some e.payload := by
  simp [members, List.lookup_append, lookup_optionalMember, List.lookup_cons]

theorem reads_optionalMember (member : String) (text : Option String) :
    ∀ m ∈ optionalMember member text, Reads m.2.chars m.2.tree := by
  cases text with
  | none => exact nofun
  | some s => exact List.forall_mem_singleton.mpr (Json.reads_string s)

/-- What is written of an envelope is read as its fields. -/
theorem ofBytes?_bytes_eq (h : Reads e.payload.chars e.payload.tree) :
    ofBytes? e.bytes = ofFields? e.fields := by
  have hmembers : ∀ m ∈ e.members, Reads m.2.chars m.2.tree := by
    simp only [members, List.forall_mem_append, List.forall_mem_cons]
    exact ⟨⟨⟨⟨⟨Json.reads_string _, Json.reads_string _, Json.reads_string _, Json.reads_string _,
      Json.reads_int _, Json.reads_int _, Json.reads_string _, nofun⟩, reads_optionalMember _ _⟩,
        reads_optionalMember _ _⟩, reads_optionalMember _ _⟩, h, nofun⟩
  have hread : Tree.ofBytes? e.bytes = some (Value.object e.members).tree := by
    rw [Tree.ofBytes?, bytes, Text.decode_toUTF8, text, Json.recordText, Value.text,
      String.toList_ofList]
    exact (Json.reads_object hmembers).read?_eq
  rw [ofBytes?, hread, Option.bind_eq_bind, Option.bind_some, ofTree?,
    Tree.fields?_tree (by decide) e.names_sublist, Option.bind_eq_bind, Option.bind_some, fields]

/-! ### The fields of an envelope -/

/-- The versions are of the lengths that they are decoded with. The payload is a value in order with
integers for its only numbers, with containers nested at most 126 deep and no wrapping among them.
-/
structure Encodable (e : Envelope) : Prop where
  aggregateVersion_lt : e.aggregateVersion < 2 ^ 64
  eventVersion_lt : e.eventVersion < 2 ^ 32
  payload_ordered : e.payload.Ordered
  payload_plain : e.payload.Plain 126

section Fields

variable {name s : String} {n bound : ℕ}

theorem required?_string (h : e.members.lookup name = some (.string s)) :
    e.fields.required? name Tree.string? = some s := by
  simp [Fields.required?, lookup_fields, h, Value.tree, Tree.string?]

theorem required?_parsed {β : Type} {read : String → Option β} {b : β}
    (h : e.members.lookup name = some (.string s)) (hread : read s = some b) :
    e.fields.required? name (fun t => t.string? >>= read) = some b := by
  simp [Fields.required?, lookup_fields, h, Value.tree, Tree.string?, hread]

theorem withDefault?_natural (default : ℕ) (h : e.members.lookup name = some (.int n))
    (hn : n < bound) (hbound : bound ≤ UInt64.size) :
    e.fields.withDefault? name default (Tree.natural? bound) = some n := by
  simp [Fields.withDefault?, lookup_fields, h, Value.tree, Tree.natural?_ofInt hn hbound]

/-- A text that may be left out is read as it is, whether it is there or not. -/
theorem withDefault?_optional {text : Option String}
    (h : e.members.lookup name = text.map Value.string) :
    e.fields.withDefault? name none Tree.optionalString? = some text := by
  cases text <;>
    simp [Fields.withDefault?, lookup_fields, h, Value.tree, Tree.optionalString?, Tree.string?]

end Fields

/-- An envelope is read from its fields. -/
theorem ofFields?_fields (h : e.Encodable) : ofFields? e.fields = some e := by
  obtain ⟨haggregateVersion, heventVersion, hordered, hplain⟩ := h
  have hcorrelation : e.members.lookup "correlation_id" = e.provenance.correlation.map .string := by
    simp [members, List.lookup_append, lookup_optionalMember, List.lookup_cons]
  have hcausation : e.members.lookup "causation_id" = e.provenance.causation.map .string := by
    simp [members, List.lookup_append, lookup_optionalMember, List.lookup_cons]
  have huser : e.members.lookup "user_id" = e.provenance.user.map .string := by
    simp [members, List.lookup_append, lookup_optionalMember, List.lookup_cons]
  -- the fields are decoded one after the other, in the order of the record
  refine Option.bind_eq_some_iff.mpr ⟨_, required?_parsed rfl e.id.parse?_text, ?_⟩
  refine Option.bind_eq_some_iff.mpr ⟨_, required?_string rfl, ?_⟩
  refine Option.bind_eq_some_iff.mpr ⟨_, required?_string rfl, ?_⟩
  refine Option.bind_eq_some_iff.mpr ⟨_, required?_string rfl, ?_⟩
  refine Option.bind_eq_some_iff.mpr
    ⟨_, withDefault?_natural _ rfl haggregateVersion (by decide), ?_⟩
  refine Option.bind_eq_some_iff.mpr
    ⟨_, withDefault?_natural _ rfl heventVersion (by decide), ?_⟩
  refine Option.bind_eq_some_iff.mpr ⟨_, required?_parsed rfl e.time.parse?_text, ?_⟩
  refine Option.bind_eq_some_iff.mpr ⟨_, withDefault?_optional hcorrelation, ?_⟩
  refine Option.bind_eq_some_iff.mpr ⟨_, withDefault?_optional hcausation, ?_⟩
  refine Option.bind_eq_some_iff.mpr ⟨_, withDefault?_optional huser, ?_⟩
  refine Option.bind_eq_some_iff.mpr ⟨e.payload, ?_, rfl⟩
  rw [Fields.withDefault?, lookup_fields, lookup_payload]
  exact hplain.ofTreeWith?_tree hordered

theorem lt_of_withDefault?_natural {fields : Fields Tree} {name : String} {default bound n : ℕ}
    (hdefault : default < bound)
    (h : fields.withDefault? name default (Tree.natural? bound) = some n) : n < bound := by
  rcases Fields.withDefault?_eq_some_iff.mp h with ⟨-, rfl⟩ | ⟨t, -, ht⟩
  · exact hdefault
  · exact Tree.natural?_lt ht

theorem ordered_of_withDefault? {fields : Fields Tree} {name : String} {depth : ℕ} {v : Value}
    (h : fields.withDefault? name .null (Value.ofTree? depth) = some v) : v.Ordered := by
  rcases Fields.withDefault?_eq_some_iff.mp h with ⟨-, rfl⟩ | ⟨t, -, ht⟩
  · exact .null
  · exact Value.ordered_of_ofTree? ht

/-- What the versions and the payload of an envelope are read from. -/
theorem read_of_ofFields? {fields : Fields Tree} (h : ofFields? fields = some e) :
    fields.withDefault? "aggregate_version" 0 (Tree.natural? UInt64.size) =
        some e.aggregateVersion ∧
      fields.withDefault? "event_version" currentEventVersion (Tree.natural? UInt32.size) =
        some e.eventVersion ∧
      fields.withDefault? "payload" .null (Value.ofTree? 126) = some e.payload := by
  obtain ⟨id, -, h⟩ := Option.bind_eq_some_iff.mp h
  obtain ⟨eventType, -, h⟩ := Option.bind_eq_some_iff.mp h
  obtain ⟨aggregateId, -, h⟩ := Option.bind_eq_some_iff.mp h
  obtain ⟨aggregateType, -, h⟩ := Option.bind_eq_some_iff.mp h
  obtain ⟨aggregateVersion, haggregateVersion, h⟩ := Option.bind_eq_some_iff.mp h
  obtain ⟨eventVersion, heventVersion, h⟩ := Option.bind_eq_some_iff.mp h
  obtain ⟨time, -, h⟩ := Option.bind_eq_some_iff.mp h
  obtain ⟨correlation, -, h⟩ := Option.bind_eq_some_iff.mp h
  obtain ⟨causation, -, h⟩ := Option.bind_eq_some_iff.mp h
  obtain ⟨user, -, h⟩ := Option.bind_eq_some_iff.mp h
  obtain ⟨payload, hpayload, h⟩ := Option.bind_eq_some_iff.mp h
  cases h
  exact ⟨haggregateVersion, heventVersion, hpayload⟩

/-- An envelope that was decoded has versions of their lengths and a payload in order. -/
theorem encodable_of_ofBytes? (h : ofBytes? bytes = some e) (hplain : e.payload.Plain 126) :
    e.Encodable := by
  obtain ⟨t, -, h⟩ := Option.bind_eq_some_iff.mp h
  obtain ⟨fields, -, h⟩ := Option.bind_eq_some_iff.mp h
  obtain ⟨haggregateVersion, heventVersion, hpayload⟩ := read_of_ofFields? h
  exact ⟨lt_of_withDefault?_natural (by decide) haggregateVersion,
    lt_of_withDefault?_natural (by decide) heventVersion, ordered_of_withDefault? hpayload, hplain⟩

/-- **Encoding keeps an envelope.** An envelope whose payload has integers only, is nested no deeper
than the decoder goes and wraps nothing is decoded from what it is encoded as. So is an envelope
that was decoded from any bytes, which therefore is encoded as the same bytes again and again. -/
theorem wire_round_trip :
    (∀ e : Envelope, e.Encodable → ofBytes? e.bytes = some e) ∧
      ∀ (bytes : ByteArray) (e : Envelope), ofBytes? bytes = some e → e.payload.Plain 126 →
        ∃ e', ofBytes? e.bytes = some e' ∧ e' = e ∧ e'.bytes = e.bytes := by
  have hkept : ∀ e : Envelope, e.Encodable → ofBytes? e.bytes = some e := fun e h =>
    (ofBytes?_bytes_eq h.payload_plain.reads).trans (ofFields?_fields h)
  exact ⟨hkept, fun bytes e h hplain =>
    ⟨e, hkept e (encodable_of_ofBytes? h hplain), rfl, rfl⟩⟩

/-- an envelope with a leap second, an empty text, a version of 64 bits and a nested payload -/
def leap : Envelope where
  id := .timeOrdered 1 0
  eventType := "app.fabric.\"created\"\n"
  aggregateId := "JU20"
  aggregateType := "fabric"
  aggregateVersion := 18446744073709551615
  eventVersion := 1
  time := ⟨⟨-4, 12, 31, by decide, by decide⟩, .last 23, .last 59, .last 60, ⟨500000, by decide⟩⟩
  provenance := { correlation := some "", user := some "ž\x01" }
  payload := .object [("", .array [.int (-9223372036854775808), .null]),
    ("code", .object [("a", .string "\t"), ("b", .bool true)])]

theorem encodable_leap : leap.Encodable where
  aggregateVersion_lt := by decide
  eventVersion_lt := by decide
  payload_ordered := by
    refine .object (by unfold Json.Ascending; decide +kernel) ?_
    simp only [List.forall_mem_cons]
    refine ⟨.array ?_, .object (by unfold Json.Ascending; decide +kernel) ?_, by simp⟩
    · simp only [List.forall_mem_cons]
      exact ⟨.int, .null, by simp⟩
    · simp only [List.forall_mem_cons]
      exact ⟨.string, .bool, by simp⟩
  payload_plain := by
    refine .object (by decide +kernel) ?_
    simp only [List.forall_mem_cons]
    refine ⟨.array ?_, .object (by decide +kernel) ?_, by simp⟩
    · simp only [List.forall_mem_cons]
      exact ⟨.int ⟨by decide, by decide⟩, .null, by simp⟩
    · simp only [List.forall_mem_cons]
      exact ⟨.string, .bool, by simp⟩

theorem wire_round_trip_leap : leap.Encodable ∧ ofBytes? leap.bytes = some leap ∧
    ∃ e', ofBytes? leap.bytes = some e' ∧ e' = leap ∧ e'.bytes = leap.bytes := by
  have hread := wire_round_trip.1 leap encodable_leap
  exact ⟨encodable_leap, hread,
    wire_round_trip.2 leap.bytes leap hread encodable_leap.payload_plain⟩

/-- an envelope whose payload begins with the name of a wrapping -/
def wrapping : Envelope where
  id := .timeOrdered 1 0
  eventType := "app.fabric.created"
  aggregateId := "JU20"
  aggregateType := "fabric"
  aggregateVersion := 1
  eventVersion := 1
  time := .epoch
  provenance := {}
  payload := .object [(Value.wrappingName, .string "[8]"), ("a", .int 1)]

/-- **An object that is taken for a wrapping is not decoded.** Its members are in order, its only
number is an integer, and no container is in it. -/
theorem wire_loses_wrapping :
    wrapping.payload = .object [("$serde_json::private::RawValue", .string "[8]"), ("a", .int 1)] ∧
      wrapping.payload.Ordered ∧ wrapping.aggregateVersion < 2 ^ 64 ∧
      wrapping.eventVersion < 2 ^ 32 ∧ ofBytes? wrapping.bytes = none := by
  have hreads : Reads wrapping.payload.chars wrapping.payload.tree := by
    refine Json.reads_object ?_
    simp only [List.forall_mem_cons]
    exact ⟨Json.reads_string _, Json.reads_int _, by simp⟩
  have hordered : wrapping.payload.Ordered := by
    refine .object (by unfold Json.Ascending; decide +kernel) ?_
    simp only [List.forall_mem_cons]
    exact ⟨.string, .int, by simp⟩
  -- it is taken for a wrapping, but a wrapping has one member
  have hmeaning : Value.ofTree? 126 wrapping.payload.tree = none := by
    simp [wrapping, Value.tree, Value.memberTrees, Value.ofTree?, Value.ofTreeWith?,
      Value.isWrapping, Value.wrappedText?]
  refine ⟨rfl, hordered, by decide, by decide, ?_⟩
  rw [ofBytes?_bytes_eq hreads]
  refine Option.eq_none_iff_forall_ne_some.mpr fun e h => ?_
  have hpayload := (read_of_ofFields? h).2.2
  rw [Fields.withDefault?, lookup_fields, lookup_payload, Option.map_some] at hpayload
  cases hmeaning.symm.trans hpayload

end Envelope

end FabricRegistry
