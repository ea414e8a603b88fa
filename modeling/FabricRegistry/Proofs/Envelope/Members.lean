import FabricRegistry.Envelope
import FabricRegistry.Proofs.Json.Meaning
import FabricRegistry.Proofs.Json.Members
import FabricRegistry.Proofs.Json.Record

/-!
The members of an envelope that is received. They may stand in any order, with members of other
names among them, and a member that says no more than its default may be there or not; but no field
may be given twice (`members_free`). Every name must spell a text, also one that is skipped, so not
every member that a JSON text can have may be added (`lone_surrogate_refused`).
-/

namespace FabricRegistry.Envelope

open Json (BeginsObject Fields IsName JsonText ObjectText Tree field? member?)

variable {b b' m : ByteArray} {members members' extra rest : List ByteArray} {e : Envelope}
  {fields fields' : Fields Tree} {name : String} {t : Tree}

/-! ### Fields -/

/-- the fields of an envelope among the members -/
def known (members : List ByteArray) : Fields Tree :=
  (members.filterMap field?).filter fun field => fieldNames.contains field.1

/-- **Members are an envelope** if every name spells a text, no field is given twice, and the fields
are those of the envelope. -/
theorem ofBytes?_eq_some_iff (h : ObjectText b members) : ofBytes? b = some e ↔
    (∀ m ∈ members, (field? m).isSome = true) ∧ ((known members).map Prod.fst).Nodup ∧
      ofFields? (known members) = some e := by
  have hmembers : ∀ m ∈ members, (member? m).isSome = true := by
    cases h with
    | mk _ _ hmembers => exact hmembers
  simp only [ofBytes?, h.ofBytes?_eq, Option.bind_eq_bind, Option.bind_some, ofTree?, Tree.fields?,
    Option.bind_eq_some_iff, Json.spellNames?_eq_some_iff hmembers]
  constructor
  · rintro ⟨fields, ⟨_, ⟨hall, rfl⟩, hdistinct⟩, he⟩
    split at hdistinct
    · next hnames =>
      obtain rfl := Option.some.inj hdistinct
      exact ⟨hall, Json.distinctNames_iff.mp hnames, he⟩
    · cases hdistinct
  · rintro ⟨hall, hnodup, he⟩
    exact ⟨_, ⟨_, ⟨hall, rfl⟩, if_pos (Json.distinctNames_iff.mpr hnodup)⟩, he⟩

/-- An envelope depends on what each name leads to. -/
theorem ofFields?_congr (h : ∀ name, fields.lookup name = fields'.lookup name) :
    ofFields? fields = ofFields? fields' := by
  simp only [ofFields?, Fields.required?, Fields.withDefault?, h]

/-- The order of fields does not matter. -/
theorem ofFields?_perm (hperm : fields.Perm fields') (h : (fields.map Prod.fst).Nodup) :
    ofFields? fields = ofFields? fields' :=
  ofFields?_congr (lookup_eq_of_perm hperm h)

/-! ### Members that say nothing -/

/-- The name of the member spells a text that is not the name of a field. -/
def IsUnknown (m : ByteArray) : Prop :=
  ∃ name t, field? m = some (name, t) ∧ name ∉ fieldNames

/-- The field has the value that stands in for it where it is left out. -/
inductive SaysDefault : String × Tree → Prop
  | aggregateVersion : SaysDefault ("aggregate_version", .number ⟨false, ['0'], none, none⟩)
  | eventVersion : SaysDefault ("event_version", .number ⟨false, ['1'], none, none⟩)
  | correlation : SaysDefault ("correlation_id", .null)
  | causation : SaysDefault ("causation_id", .null)
  | user : SaysDefault ("user_id", .null)
  | payload : SaysDefault ("payload", .null)

theorem SaysDefault.mem_fieldNames {field : String × Tree} (h : SaysDefault field) :
    field.1 ∈ fieldNames := by
  cases h <;> decide

/-- A field with the value that stands in for it says no more than none. -/
theorem SaysDefault.ofFields?_cons {field : String × Tree} (h : SaysDefault field)
    (hnone : fields.lookup field.1 = none) : ofFields? (field :: fields) = ofFields? fields := by
  have hzero : Tree.natural? UInt64.size (.number ⟨false, ['0'], none, none⟩) = some 0 := rfl
  have hone : Tree.natural? UInt32.size (.number ⟨false, ['1'], none, none⟩) = some 1 := rfl
  cases h
  all_goals
    simp only [ofFields?, Fields.required?, Fields.withDefault?, lookup_cons_eq,
      String.reduceEq, if_true, if_false, hnone, hzero, hone, currentEventVersion]
  all_goals rfl

/-- The member is a field with the value that stands in for it. -/
def IsDefault (m : ByteArray) : Prop := ∃ field, field? m = some field ∧ SaysDefault field

theorem known_perm (h : members.Perm members') : (known members).Perm (known members') :=
  (h.filterMap field?).filter _

theorem known_append (members extra : List ByteArray) :
    known (members ++ extra) = known members ++ known extra := by
  rw [known, List.filterMap_append, List.filter_append, known, known]

theorem known_of_unknown (h : ∀ m ∈ extra, IsUnknown m) : known extra = [] := by
  refine List.filter_eq_nil_iff.mpr fun field hfield => ?_
  obtain ⟨m, hm, hread⟩ := List.mem_filterMap.mp hfield
  obtain ⟨name, t, hname, hunknown⟩ := h m hm
  cases hname.symm.trans hread
  simpa using hunknown

theorem known_cons_default {field : String × Tree} (hm : field? m = some field)
    (h : SaysDefault field) (rest : List ByteArray) : known (m :: rest) = field :: known rest := by
  rw [known, List.filterMap_cons, hm]
  exact List.filter_cons_of_pos (by simpa using h.mem_fieldNames)

/-! ### Freedom of form -/

/-- What can be done to the text of an envelope, so that it stays the text of this envelope. -/
structure FreeForm (b : ByteArray) (e : Envelope) : Prop where
  /-- the text is made of members -/
  made : ∃ members, ObjectText b members
  /-- the members may stand in any order, with unknown ones anywhere among them -/
  reordered : ∀ members extra members' b', ObjectText b members → (∀ m ∈ extra, IsUnknown m) →
    members'.Perm (members ++ extra) → ObjectText b' members' → ofBytes? b' = some e
  /-- a field with the value that stands in for it may be left out -/
  leftOut : ∀ members m rest b', ObjectText b members → members.Perm (m :: rest) → IsDefault m →
    ObjectText b' rest → ofBytes? b' = some e
  /-- and if no member has its name, it may stand anywhere -/
  restored : ∀ members m members' b', ObjectText b members → IsDefault m →
    (∀ m' ∈ members, (field? m').map Prod.fst ≠ (field? m).map Prod.fst) →
    members'.Perm (m :: members) → ObjectText b' members' → ofBytes? b' = some e

/-- A field is given twice, by two of the members. -/
def GivesTwice (members : List ByteArray) : Prop :=
  ∃ m m' name t t', [m, m'].Sublist members ∧ field? m = some (name, t) ∧
    field? m' = some (name, t') ∧ name ∈ fieldNames

theorem reordered_of_accepted (he : ofBytes? b = some e) (hb : ObjectText b members)
    (hextra : ∀ m ∈ extra, IsUnknown m) (hperm : members'.Perm (members ++ extra))
    (hb' : ObjectText b' members') : ofBytes? b' = some e := by
  obtain ⟨hall, hnodup, hfields⟩ := (ofBytes?_eq_some_iff hb).mp he
  have hknown : (known members').Perm (known members) := by
    have happend := known_perm hperm
    rwa [known_append, known_of_unknown hextra, List.append_nil] at happend
  have hnodup' := (hknown.map Prod.fst).nodup_iff.mpr hnodup
  refine (ofBytes?_eq_some_iff hb').mpr ⟨fun m hm => ?_, hnodup', ?_⟩
  · rcases List.mem_append.mp (hperm.mem_iff.mp hm) with hm | hm
    · exact hall m hm
    · obtain ⟨name, t, hname, -⟩ := hextra m hm
      rw [hname, Option.isSome_some]
  · rw [ofFields?_perm hknown hnodup', hfields]

theorem leftOut_of_accepted (he : ofBytes? b = some e) (hb : ObjectText b members)
    (hperm : members.Perm (m :: rest)) (hm : IsDefault m) (hb' : ObjectText b' rest) :
    ofBytes? b' = some e := by
  obtain ⟨field, hfield, hdefault⟩ := hm
  obtain ⟨hall, hnodup, hfields⟩ := (ofBytes?_eq_some_iff hb).mp he
  have hknown := known_perm hperm
  rw [known_cons_default hfield hdefault] at hknown
  have hnodup' := (hknown.map Prod.fst).nodup_iff.mp hnodup
  obtain ⟨hnot, hrest⟩ := List.nodup_cons.mp hnodup'
  refine (ofBytes?_eq_some_iff hb').mpr ⟨fun m hm => ?_, hrest, ?_⟩
  · exact hall m (hperm.mem_iff.mpr (List.mem_cons_of_mem _ hm))
  · rw [← hdefault.ofFields?_cons (lookup_eq_none_of_not_mem hnot),
      ← ofFields?_perm hknown hnodup, hfields]

theorem restored_of_accepted (he : ofBytes? b = some e) (hb : ObjectText b members)
    (hm : IsDefault m) (hnew : ∀ m' ∈ members, (field? m').map Prod.fst ≠ (field? m).map Prod.fst)
    (hperm : members'.Perm (m :: members)) (hb' : ObjectText b' members') :
    ofBytes? b' = some e := by
  obtain ⟨field, hfield, hdefault⟩ := hm
  obtain ⟨hall, hnodup, hfields⟩ := (ofBytes?_eq_some_iff hb).mp he
  have hknown := known_perm hperm
  rw [known_cons_default hfield hdefault] at hknown
  have hnot : field.1 ∉ (known members).map Prod.fst := by
    intro hmem
    obtain ⟨other, hother, hname⟩ := List.mem_map.mp hmem
    obtain ⟨m', hm', hread⟩ := List.mem_filterMap.mp (List.mem_filter.mp hother).1
    refine hnew m' hm' ?_
    rw [hread, hfield, Option.map_some, Option.map_some, hname]
  have hnodup' := (hknown.map Prod.fst).nodup_iff.mpr (List.nodup_cons.mpr ⟨hnot, hnodup⟩)
  refine (ofBytes?_eq_some_iff hb').mpr ⟨fun m' hm' => ?_, hnodup', ?_⟩
  · rcases List.mem_cons.mp (hperm.mem_iff.mp hm') with rfl | hm'
    · rw [hfield, Option.isSome_some]
    · exact hall m' hm'
  · rw [ofFields?_perm hknown hnodup',
      hdefault.ofFields?_cons (lookup_eq_none_of_not_mem hnot), hfields]

/-- An envelope has members. -/
theorem exists_objectText (he : ofBytes? b = some e) (hb : BeginsObject b) :
    ∃ members, ObjectText b members := by
  obtain ⟨t, ht, he⟩ := Option.bind_eq_some_iff.mp he
  refine Json.exists_objectText hb ht ?_
  rintro rfl
  cases he

theorem none_of_givesTwice (hb : ObjectText b members) (h : GivesTwice members) :
    ofBytes? b = none := by
  obtain ⟨m, m', name, t, t', hsub, hm, hm', hname⟩ := h
  refine Option.eq_none_iff_forall_ne_some.mpr fun e he => ?_
  have hnodup := ((ofBytes?_eq_some_iff hb).mp he).2.1
  have hknown : known [m, m'] = [(name, t), (name, t')] := by
    simp [known, hm, hm', hname]
  have hpair := hnodup.sublist (((hsub.filterMap field?).filter _).map Prod.fst)
  rw [← known, hknown] at hpair
  simp at hpair

/-- **The form of an envelope that is received is free.** An object text that is read as an envelope
is made of members. They may be put in another order, with members among them that are no fields,
and fields with the values that stand in for them may be left out and put in again: it is still read
as this envelope. But a text that gives a field twice is refused. A member can be any name and any
value that the grammar derives, nested to any depth. -/
theorem members_free :
    (∀ b e, ofBytes? b = some e → BeginsObject b → FreeForm b e) ∧
    (∀ b members, ObjectText b members → GivesTwice members → ofBytes? b = none) ∧
    (∀ k v, IsName k → JsonText v →
      (member? (String.ofList (k ++ ':' :: v)).toUTF8).isSome = true) := by
  refine ⟨fun b e he hb => ?_, fun b members => none_of_givesTwice,
    fun k v => Json.isSome_member?_of_grammar⟩
  exact
    { made := exists_objectText he hb
      reordered := fun _ _ _ _ => reordered_of_accepted he
      leftOut := fun _ _ _ _ => leftOut_of_accepted he
      restored := fun _ _ _ _ => restored_of_accepted he }

/-! ### A name that spells no text -/

/-- the members of the creation of a jute -/
def juteMembers : List String :=
  ["\"event_id\":\"00000000000000000000000000000001\"",
    "\"event_type\":\"erp.fabric.created\"", "\"aggregate_id\":\"JU20\"",
    "\"aggregate_type\":\"fabric\"", "\"timestamp\":\"2025-01-01T00:00:00Z\"",
    "\"payload\":\x7b\"fabric_code\":\"JU20\"\x7d"]

/-- a member whose name is the first half of a surrogate pair without the second -/
def loneSurrogate : String := "\"\\ud800\":1"

theorem lone_surrogate_refused :
    let members := juteMembers.map String.toUTF8
    let m := loneSurrogate.toUTF8
    ObjectText (Json.objectBytes members) members ∧
      (ofBytes? (Json.objectBytes members)).isSome = true ∧
      member? m = some ([.unit 0xD800], .number ⟨false, ['1'], none, none⟩) ∧
      (∀ name ∈ fieldNames, Json.Piece.text? [.unit 0xD800] ≠ some name) ∧
      ObjectText (Json.objectBytes (m :: members)) (m :: members) ∧
      ofBytes? (Json.objectBytes (m :: members)) = none := by
  intro members m
  have hmembers : ∀ b ∈ members, (member? b).isSome = true := by
    refine List.forall_mem_map.mpr fun s hs => ?_
    rw [Json.member?_toUTF8]
    revert s
    decide +kernel
  have hm : member? m = some ([.unit 0xD800], .number ⟨false, ['1'], none, none⟩) := by
    rw [Json.member?_toUTF8]
    rfl
  have hname : Json.Piece.text? [.unit 0xD800] = none := by decide
  have hboth : ∀ b ∈ m :: members, (member? b).isSome = true :=
    List.forall_mem_cons.mpr ⟨by rw [hm, Option.isSome_some], hmembers⟩
  refine ⟨Json.objectText_objectBytes hmembers, ?_, hm, fun _ _ => by rw [hname]; exact nofun,
    Json.objectText_objectBytes hboth, ?_⟩
  · rw [ofBytes?, Json.ofBytes?_objectBytes_toUTF8]
    decide +kernel
  · refine Option.eq_none_iff_forall_ne_some.mpr fun e he => ?_
    have hall := ((ofBytes?_eq_some_iff (Json.objectText_objectBytes hboth)).mp he).1 m
      List.mem_cons_self
    simp [field?, hm, hname] at hall

end FabricRegistry.Envelope
