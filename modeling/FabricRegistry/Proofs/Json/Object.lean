import FabricRegistry.Proofs.Json.Nested
import Mathlib.Data.List.Forall2

/-!
The text of an object taken apart. It is the texts of its members between braces, with commas
between them (`read?_object`, `exists_of_read?`), and the value of each of them can be read alone,
since what is made of a text does not depend on the containers around it.
-/

namespace FabricRegistry.Json

open Reader

variable {r : Reader} {s text body w : List (Option Char)} {t : Tree} {n : List Piece}
  {before members : List (List Piece × Tree)} {texts : List (List (Option Char))}

/-! ### Objects put together -/

/-- The place is before the name of a member in an object with the members `before`. -/
inductive Place.StartsMember : Place → List Frame → List (List Piece × Tree) → Prop
  | key (outer : List Frame) (before : List (List Piece × Tree)) :
    StartsMember (.key outer before) outer before
  | firstKey (outer : List Frame) : StartsMember (.firstKey outer) outer []

theorem Place.StartsMember.next?_string {place : Place} {outer : List Frame}
    (h : place.StartsMember outer before) (n : List Piece) :
    place.next? (.string n) = some (.colon outer before n) := by
  cases h <;> rfl

/-- The text of a member, with blanks around its tokens. -/
inductive MemberText : List (Option Char) → List Piece × Tree → Prop
  | mk {w body w' v n t} (hw : Blank w) (hname : Literal body n) (hw' : Blank w')
    (hv : Tree.read? v = some t) :
    MemberText (w ++ some '"' :: (body ++ some '"' :: (w' ++ some ':' :: v))) (n, t)

/-- The text of a member leads behind its value. -/
theorem MemberText.pass?_eq (h : MemberText text (n, t)) {place : Place} {outer : List Frame}
    (hplace : place.StartsMember outer before) (rest : List (Option Char)) :
    ∃ r : Reader, r.Behind (.after (.object before n :: outer) t) ∧
      pass? ⟨.between, place⟩ (text ++ rest) = r.pass? rest := by
  cases h with
  | @mk w body w' v n t hw hname hw' hv =>
    obtain ⟨r, hpass, hr⟩ := read?_eq_some_iff.mp hv
    have hvalue : pass? ⟨.between, .value (.object before n :: outer)⟩ v =
        some (r.within (.object before n :: outer)) := pass?_within hpass
    refine ⟨_, hr.within _, ?_⟩
    have hcolon := hplace.next?_string n
    rw [List.append_assoc, pass?_append_of_eq (pass?_blank place hw), List.cons_append,
      List.append_assoc, List.cons_append, hname.pass?_eq hcolon, List.append_assoc,
      pass?_append_of_eq (pass?_blank _ hw'), List.cons_append,
      Behind.between.pass?_punctuation .colon rfl rfl, pass?_append_of_eq hvalue]

/-- The texts of members with commas between them, and a brace, end the object. -/
theorem pass?_members (h : List.Forall₂ MemberText texts members) (hne : texts ≠ [])
    {place : Place} {outer : List Frame} (hplace : place.StartsMember outer before)
    (rest : List (Option Char)) :
    pass? ⟨.between, place⟩ ([some ','].intercalate texts ++ some '\x7d' :: rest) =
      pass? ⟨.between, .after outer (.object (before.reverse ++ members))⟩ rest := by
  induction h generalizing place before with
  | nil => exact absurd rfl hne
  | @cons text m texts members htext htexts ih =>
    obtain ⟨n, t⟩ := m
    cases htexts with
    | nil =>
      obtain ⟨r, hr, hpass⟩ := htext.pass?_eq hplace (some '\x7d' :: rest)
      rw [List.intercalate_singleton, hpass,
        hr.pass?_punctuation .closeObject rfl rfl, List.reverse_cons]
    | @cons text' m' texts members htext' htexts =>
      obtain ⟨r, hr, hpass⟩ := htext.pass?_eq hplace
        (some ',' :: ([some ','].intercalate (text' :: texts) ++ some '\x7d' :: rest))
      rw [List.intercalate_cons_cons, List.append_assoc, List.append_assoc, List.singleton_append,
        hpass, hr.pass?_punctuation .comma rfl rfl,
        ih (List.cons_ne_nil _ _) (.key outer ((n, t) :: before))]
      simp

/-- **Members between braces are read as an object.** -/
theorem read?_object {front back : List (Option Char)} (hfront : Blank front) (hback : Blank back)
    (h : List.Forall₂ MemberText texts members) :
    Tree.read? (front ++ some '\x7b' :: ([some ','].intercalate texts ++ some '\x7d' :: back)) =
      some (.object members) := by
  refine read?_eq_some_iff.mpr ⟨⟨.between, .after [] (.object members)⟩, ?_, .between⟩
  rw [start, pass?_append_of_eq (pass?_blank _ hfront),
    Behind.between.pass?_punctuation .openObject rfl rfl]
  cases h with
  | nil =>
    rw [List.intercalate_nil, List.nil_append,
      Behind.between.pass?_punctuation .closeObject rfl rfl]
    exact pass?_blank _ hback
  | cons hm hms =>
    rw [pass?_members (.cons hm hms) (List.cons_ne_nil _ _) (.firstKey [])]
    exact pass?_blank _ hback

/-! ### Objects taken apart -/

theorem eq_of_punctuation {c : Char} {token : Token} (h : punctuation? c = some token) :
    (token = .comma → c = ',') ∧ (token = .colon → c = ':') ∧ (token = .closeObject → c = '\x7d') ∧
      ∀ n, token ≠ .string n := by
  unfold punctuation? at h
  split at h
  iterate 6
    obtain rfl := Option.some.inj h
    exact ⟨by simp, by simp, by simp, nofun⟩
  cases h

/-- Behind the text there are only blanks. -/
theorem blank_of_pass? (h : pass? ⟨.between, .after [] t⟩ s = some r) {t' : Tree}
    (hr : r.Behind (.after [] t')) : Blank s ∧ t = t' := by
  cases first_of_pass? (fun _ => rfl) h hr with
  | blank hs hr' =>
    subst hr'
    exact ⟨hs, (Place.after.inj hr.eq_of_between).2⟩
  | punctuation _ _ _ hnext _ => cases hnext
  | string _ _ _ hnext _ => cases hnext

/-- Behind the name of a member there are a colon, a value that can be read alone, and a comma or a
brace. -/
theorem exists_value (h : pass? ⟨.between, .colon [] before n⟩ s = some r)
    (hr : r.Behind (.after [] t)) :
    ∃ w v t' c rest, Blank w ∧ s = w ++ some ':' :: (v ++ some c :: rest) ∧
      Tree.read? v = some t' ∧
      (c = ',' ∧ pass? ⟨.between, .key [] ((n, t') :: before)⟩ rest = some r ∨
        c = '\x7d' ∧
          pass? ⟨.between, .after [] (.object ((n, t') :: before).reverse)⟩ rest = some r) := by
  cases first_of_pass? (fun _ => rfl) h hr with
  | blank _ hr' =>
    subst hr'
    cases hr.eq_of_between
  | string _ _ _ hnext _ => cases hnext
  | @punctuation w c token place' rest hw hs hc hnext hrest =>
    obtain ⟨-, hcolon, -, hstring⟩ := eq_of_punctuation hc
    cases token with
    | colon =>
      obtain rfl := hcolon rfl
      cases hnext
      have hwithin : (start.within [.object before n]).pass? rest = some r := hrest
      rcases pass?_within_cases hwithin with
        ⟨r₁, -, rfl⟩ | ⟨v, c, rest, token, r₁, t', rfl, hc, hv, hr₁, hgo⟩
      · exact absurd hr not_behind_within
      · have hread : Tree.read? v = some t' := read?_eq_some_iff.mpr ⟨r₁, hv, hr₁⟩
        have hbehind := hr₁.within [.object before n]
        obtain ⟨hcomma, -, hbrace, -⟩ := eq_of_punctuation hc
        refine ⟨w, v, t', c, rest, hw, hs, hread, ?_⟩
        cases token with
        | comma =>
          rw [hbehind.pass?_punctuation _ hc rfl] at hgo
          exact Or.inl ⟨hcomma rfl, hgo⟩
        | closeObject =>
          rw [hbehind.pass?_punctuation _ hc rfl] at hgo
          exact Or.inr ⟨hbrace rfl, hgo⟩
        | _ =>
          obtain ⟨r₂, hstep, -⟩ := exists_of_pass?_cons hgo
          rw [hbehind.step_punctuation _ hc] at hstep
          cases hstep
    | string n => exact absurd rfl (hstring n)
    | _ => cases hnext

/-- Behind the name of a member there is the rest of its text. -/
theorem exists_member (hw : Blank w) (hbody : Literal body n)
    (h : pass? ⟨.between, .colon [] before n⟩ s = some r) (hr : r.Behind (.after [] t)) :
    ∃ text t' c rest, w ++ some '"' :: (body ++ some '"' :: s) = text ++ some c :: rest ∧
      MemberText text (n, t') ∧
      (c = ',' ∧ pass? ⟨.between, .key [] ((n, t') :: before)⟩ rest = some r ∨
        c = '\x7d' ∧
          pass? ⟨.between, .after [] (.object ((n, t') :: before).reverse)⟩ rest = some r) := by
  obtain ⟨w', v, t', c, rest, hw', rfl, hv, hrest⟩ := exists_value h hr
  exact ⟨_, t', c, rest, by simp, .mk hw hbody hw' hv, hrest⟩

/-- Where members may begin there are the texts of members, and a brace; or the brace alone, behind
the opening one. -/
theorem exists_members {place : Place} (hplace : place.StartsMember [] before)
    (h : pass? ⟨.between, place⟩ s = some r) (hr : r.Behind (.after [] t)) :
    place = .firstKey [] ∧ t = .object [] ∨
    ∃ texts members back, texts ≠ [] ∧ Blank back ∧
      s = [some ','].intercalate texts ++ some '\x7d' :: back ∧
      List.Forall₂ MemberText texts members ∧ t = .object (before.reverse ++ members) := by
  induction hlength : s.length using Nat.strongRecOn generalizing s before place with
  | ind length ih =>
    have hword (t : Tree) : place.next? (.word t) = none := by
      cases hplace <;> rfl
    cases first_of_pass? hword h hr with
    | blank _ hr' =>
      subst hr'
      cases hplace <;> cases hr.eq_of_between
    | @punctuation w c token place' rest hw hs hc hnext hrest =>
      obtain ⟨-, -, -, hstring⟩ := eq_of_punctuation hc
      cases hplace with
      | key _ _ =>
        cases token with
        | string n => exact absurd rfl (hstring n)
        | _ => cases hnext
      | firstKey _ =>
        cases token with
        | closeObject =>
          cases hnext
          exact Or.inl ⟨rfl, (blank_of_pass? hrest hr).2.symm⟩
        | string n => exact absurd rfl (hstring n)
        | _ => cases hnext
    | @string w body pieces place' rest hw hs hbody hnext hrest =>
      obtain rfl := Option.some.inj ((hplace.next?_string pieces).symm.trans hnext)
      obtain ⟨text, t', c, rest, hsplit, htext, ⟨rfl, hgo⟩ | ⟨rfl, hgo⟩⟩ :=
        exists_member hw hbody hrest hr
      · have hshorter : rest.length < length := by
          rw [← hlength, hs, hsplit, List.length_append, List.length_cons]
          omega
        obtain ⟨hfirst, -⟩ | ⟨texts, members, back, hne, hback, rfl, htexts, rfl⟩ :=
          ih _ hshorter (.key _ _) hgo rfl
        · cases hfirst
        · refine Or.inr ⟨text :: texts, (pieces, t') :: members, back, List.cons_ne_nil _ _, hback,
            ?_, .cons htext htexts, by simp⟩
          rw [hs, hsplit, List.intercalate_cons_of_ne_nil hne]
          simp
      · obtain ⟨hback, rfl⟩ := blank_of_pass? hgo hr
        refine Or.inr ⟨[text], [(pieces, t')], rest, List.cons_ne_nil _ _, hback, ?_,
          .cons htext .nil, by simp⟩
        rw [hs, hsplit, List.intercalate_singleton]

/-- **What begins with a brace is an object, made of the texts of its members.** -/
theorem exists_of_read? {front : List (Option Char)} (hfront : Blank front)
    (h : Tree.read? (front ++ some '\x7b' :: s) = some t) :
    t = .object [] ∨ ∃ texts members back, Blank back ∧
      s = [some ','].intercalate texts ++ some '\x7d' :: back ∧
      List.Forall₂ MemberText texts members ∧ t = .object members := by
  obtain ⟨r, hpass, hr⟩ := read?_eq_some_iff.mp h
  rw [start, pass?_append_of_eq (pass?_blank _ hfront),
    Behind.between.pass?_punctuation .openObject rfl rfl] at hpass
  rcases exists_members (.firstKey []) hpass hr with
    ⟨-, ht⟩ | ⟨texts, members, back, -, hback, hs, htexts, ht⟩
  · exact Or.inl ht
  · exact Or.inr ⟨texts, members, back, hback, hs, htexts, ht⟩

end FabricRegistry.Json
