import FabricRegistry.Json.Record
import FabricRegistry.Proofs.Json.Grammar
import FabricRegistry.Proofs.Text.Utf8

/-!
Objects in bytes. The bytes of an object are those of its members between braces, with commas
between them (`exists_objectText`), and any bytes that can stand alone between braces as one member
can be a member of any object (`ObjectText.ofBytes?_eq`). A name and a value of the grammar are such
bytes (`isSome_member?_of_grammar`).
-/

namespace FabricRegistry.Json

open Text (charBytes decode)

/-- the bytes with commas between them -/
def commaBytes : List ByteArray → ByteArray
  | [] => .empty
  | [b] => b
  | b :: rest => b ++ (charBytes ',' ++ commaBytes rest)

/-- the bytes with commas between them and braces around them -/
def objectBytes (members : List ByteArray) : ByteArray :=
  charBytes '\x7b' ++ (commaBytes members ++ charBytes '\x7d')

/-- the member that bytes are, which with braces around them are an object of this member alone -/
def member? (b : ByteArray) : Option (List Piece × Tree) :=
  match Tree.ofBytes? (objectBytes [b]) with
  | some (.object [m]) => some m
  | _ => none

/-- a member in bytes with its name spelled out -/
def field? (b : ByteArray) : Option (String × Tree) := do
  let m ← member? b
  return (← Piece.text? m.1, m.2)

/-- The bytes are an object of these members, with blanks around it. -/
inductive ObjectText : ByteArray → List ByteArray → Prop
  | mk {front back members} (hfront : Blank (decode front)) (hback : Blank (decode back))
    (hmembers : ∀ b ∈ members, (member? b).isSome = true) :
    ObjectText (front ++ (objectBytes members ++ back)) members

/-- Behind blanks the bytes begin with a brace. -/
inductive BeginsObject : ByteArray → Prop
  | mk {front rest} (hfront : Blank (decode front)) :
    BeginsObject (front ++ (charBytes '\x7b' ++ rest))

/-! ### Bytes and characters -/

variable {b front back rest : ByteArray} {members : List ByteArray} {m : List Piece × Tree}
  {t : Tree} {texts : List (List (Option Char))}

theorem decode_commaBytes (members : List ByteArray) :
    decode (commaBytes members) = [some ','].intercalate (members.map decode) := by
  induction members with
  | nil => exact Text.decode_empty
  | cons b members ih =>
    cases members with
    | nil => simp [commaBytes]
    | cons b' members =>
      rw [commaBytes, Text.decode_append_char, ih]
      · simp only [List.map_cons, List.intercalate_cons_cons, List.append_assoc,
          List.singleton_append]
      · exact nofun

theorem decode_object (front back : ByteArray) (members : List ByteArray) :
    decode (front ++ (objectBytes members ++ back)) = decode front ++ some '\x7b' ::
      ([some ','].intercalate (members.map decode) ++ some '\x7d' :: decode back) := by
  rw [objectBytes, ByteArray.append_assoc, ByteArray.append_assoc, Text.decode_append_char,
    Text.decode_append_char, decode_commaBytes]

/-- Where texts are read with commas between them, the bytes are such ones. -/
theorem exists_commaBytes (hne : texts ≠ [])
    (h : decode b = [some ','].intercalate texts) :
    ∃ members, b = commaBytes members ∧ members.map decode = texts := by
  induction texts generalizing b with
  | nil => exact absurd rfl hne
  | cons text texts ih =>
    cases texts with
    | nil =>
      rw [List.intercalate_singleton] at h
      exact ⟨[b], rfl, by rw [List.map_singleton, h]⟩
    | cons text' texts =>
      rw [List.intercalate_cons_cons, List.append_assoc, List.singleton_append] at h
      obtain ⟨a, d, rfl, ha, hd⟩ := Text.exists_of_decode_eq h
      obtain ⟨members, rfl, hmembers⟩ := ih (List.cons_ne_nil _ _) hd
      cases members with
      | nil => cases hmembers
      | cons b members => exact ⟨a :: b :: members, rfl, by rw [List.map_cons, ha, hmembers]⟩

/-! ### Members -/

theorem blank_empty : Blank (decode .empty) := by
  rw [Text.decode_empty]
  exact nofun

theorem ofBytes?_objectBytes {ms : List (List Piece × Tree)} (hfront : Blank (decode front))
    (hback : Blank (decode back)) (h : List.Forall₂ MemberText (members.map decode) ms) :
    Tree.ofBytes? (front ++ (objectBytes members ++ back)) = some (.object ms) := by
  rw [Tree.ofBytes?, decode_object]
  exact read?_object hfront hback h

/-- Nothing but blanks can stand behind the brace that is the last character. -/
theorem eq_of_append_brace {s text back : List (Option Char)} (hback : Blank back)
    (h : s ++ [some '\x7d'] = text ++ some '\x7d' :: back) : s = text := by
  rcases List.eq_nil_or_concat back with rfl | ⟨before, g, rfl⟩
  · exact (List.append_inj' h rfl).1
  · have hsplit : s ++ [some '\x7d'] = (text ++ some '\x7d' :: before) ++ [g] := by simpa using h
    obtain rfl := List.singleton_inj.mp (List.append_inj' hsplit rfl).2
    obtain ⟨c, hc, hspace⟩ := hback (some '\x7d') (by simp)
    cases hc
    cases hspace

theorem objectBytes_eq (members : List ByteArray) :
    objectBytes members = .empty ++ (objectBytes members ++ .empty) := by
  rw [ByteArray.empty_append, ByteArray.append_empty]

theorem member?_eq_some_iff : member? b = some m ↔ MemberText (decode b) m := by
  constructor
  · intro h
    unfold member? at h
    split at h
    · next m' hread =>
      obtain rfl := Option.some.inj h
      rw [objectBytes_eq, Tree.ofBytes?, decode_object] at hread
      rcases exists_of_read? blank_empty hread with
        ht | ⟨texts, ms, back, hback, hs, htexts, ht⟩
      · cases ht
      · cases ht
        obtain ⟨text, texts, htext, hnil, rfl⟩ := List.forall₂_cons_right_iff.mp htexts
        cases hnil
        rw [List.map_singleton, List.intercalate_singleton, List.intercalate_singleton,
          Text.decode_empty] at hs
        rwa [eq_of_append_brace hback hs]
    · cases h
  · intro h
    have halone : List.Forall₂ MemberText ([b].map decode) [m] := .cons h .nil
    have hread := ofBytes?_objectBytes blank_empty blank_empty halone
    rw [← objectBytes_eq] at hread
    rw [member?, hread]

theorem isSome_of_memberTexts {ms : List (List Piece × Tree)}
    (h : List.Forall₂ MemberText (members.map decode) ms) :
    ∀ b ∈ members, (member? b).isSome = true := by
  induction members generalizing ms with
  | nil => exact nofun
  | cons b members ih =>
    cases h with
    | cons hm hms =>
      refine List.forall_mem_cons.mpr ⟨?_, ih hms⟩
      rw [member?_eq_some_iff.mpr hm, Option.isSome_some]

/-- Members of the grammar are members. -/
theorem isSome_member?_of_grammar {k v : List Char} (hk : IsName k) (hv : JsonText v) :
    (member? (String.ofList (k ++ ':' :: v)).toUTF8).isSome = true := by
  obtain ⟨t, ht⟩ := hv.exists_reads
  obtain ⟨pieces, htext⟩ := hk.exists_memberText ht
  have hmember : MemberText (decode (String.ofList (k ++ ':' :: v)).toUTF8) (pieces, t) := by
    rwa [Text.decode_toUTF8, String.toList_ofList]
  rw [member?_eq_some_iff.mpr hmember, Option.isSome_some]

/-! ### Objects -/

/-- **An object is read as its members.** -/
theorem ObjectText.ofBytes?_eq (h : ObjectText b members) :
    Tree.ofBytes? b = some (.object (members.filterMap member?)) := by
  cases h with
  | @mk front back members hfront hback hmembers =>
    refine ofBytes?_objectBytes hfront hback ?_
    induction members with
    | nil => exact .nil
    | cons b members ih =>
      obtain ⟨hb, hrest⟩ := List.forall_mem_cons.mp hmembers
      obtain ⟨m, hm⟩ := Option.isSome_iff_exists.mp hb
      rw [List.filterMap_cons, hm]
      exact .cons (member?_eq_some_iff.mp hm) (ih hrest)

/-- The names of members are spelled one by one. -/
theorem spellNames?_eq_some_iff {fields : Fields Tree}
    (h : ∀ b ∈ members, (member? b).isSome = true) :
    spellNames? (members.filterMap member?) = some fields ↔
      (∀ b ∈ members, (field? b).isSome = true) ∧ fields = members.filterMap field? := by
  induction members generalizing fields with
  | nil =>
    refine ⟨fun h => ⟨nofun, (Option.some.inj h).symm⟩, ?_⟩
    rintro ⟨-, rfl⟩
    rfl
  | cons b members ih =>
    obtain ⟨hb, hrest⟩ := List.forall_mem_cons.mp h
    obtain ⟨⟨pieces, t⟩, hm⟩ := Option.isSome_iff_exists.mp hb
    rw [List.filterMap_cons, hm]
    cases hname : Piece.text? pieces with
    | none =>
      have hfield : field? b = none := by simp [field?, hm, hname]
      simp [spellNames?, hname, hfield]
    | some name =>
      have hfield : field? b = some (name, t) := by simp [field?, hm, hname]
      simp only [spellNames?, hname, Option.bind_eq_bind, Option.bind_some, List.forall_mem_cons,
        hfield, Option.isSome_some, true_and, List.filterMap_cons, Option.bind_eq_some_iff,
        Option.pure_def, Option.some.injEq, ih hrest]
      constructor
      · rintro ⟨rest, ⟨hall, rfl⟩, rfl⟩
        exact ⟨hall, rfl⟩
      · rintro ⟨hall, rfl⟩
        exact ⟨_, ⟨hall, rfl⟩, rfl⟩

/-- **What begins with a brace and can be read has members.** -/
theorem exists_objectText (hb : BeginsObject b) (h : Tree.ofBytes? b = some t)
    (hne : t ≠ .object []) : ∃ members, ObjectText b members := by
  cases hb with
  | @mk front rest hfront =>
    rw [Tree.ofBytes?, Text.decode_append_char] at h
    rcases exists_of_read? hfront h with ht | ⟨texts, ms, back, hback, hs, htexts, ht⟩
    · exact absurd ht hne
    · have htexts_ne : texts ≠ [] := by
        rintro rfl
        cases htexts
        exact hne ht
      obtain ⟨a, d, rfl, ha, rfl⟩ := Text.exists_of_decode_eq hs
      obtain ⟨members, rfl, rfl⟩ := exists_commaBytes htexts_ne ha
      refine ⟨members, ?_⟩
      have hobject := ObjectText.mk hfront hback (isSome_of_memberTexts htexts)
      rwa [objectBytes, ByteArray.append_assoc, ByteArray.append_assoc] at hobject

/-! ### Members in characters -/

theorem objectText_objectBytes (h : ∀ b ∈ members, (member? b).isSome = true) :
    ObjectText (objectBytes members) members := by
  have hobject := ObjectText.mk blank_empty blank_empty h
  rwa [← objectBytes_eq] at hobject

theorem ofBytes?_objectBytes_toUTF8 (texts : List String) :
    Tree.ofBytes? (objectBytes (texts.map String.toUTF8)) =
      Tree.read? (('\x7b' :: (Text.join ',' (texts.map String.toList) ++ ['\x7d'])).map some) := by
  have hdecode : texts.map (decode ∘ String.toUTF8) = texts.map (List.map some ∘ String.toList) :=
    List.map_congr_left fun s _ => Text.decode_toUTF8 s
  rw [objectBytes_eq, Tree.ofBytes?, decode_object, Text.decode_empty, List.map_map, hdecode,
    ← List.map_map, ← map_join]
  simp

theorem member?_toUTF8 (s : String) : member? s.toUTF8 =
    match Tree.read? (('\x7b' :: (s.toList ++ ['\x7d'])).map some) with
    | some (.object [m]) => some m
    | _ => none := by
  have hread := ofBytes?_objectBytes_toUTF8 [s]
  rw [List.map_singleton] at hread
  rw [member?, hread]
  rfl

end FabricRegistry.Json
