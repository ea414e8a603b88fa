import FabricRegistry.Proofs.Json.Object
import FabricRegistry.Text.Segments

/-!
The grammar of JSON texts. Whatever it derives, nested to any depth, is read as a tree
(`JsonText.exists_read?`), and a name and a value that it derives are the text of a member.
-/

namespace FabricRegistry.Json

/-! ### The grammar -/

/-- digits, one at least -/
def IsDigits (s : List Char) : Prop := s ≠ [] ∧ ∀ c ∈ s, Text.isDigit c = true

/-- the whole part of a number, without a needless zero in front -/
inductive IsWhole : List Char → Prop
  | zero : IsWhole ['0']
  | digits {c s} (hc : Text.isDigit c = true) (hne : c ≠ '0')
    (hs : ∀ c ∈ s, Text.isDigit c = true) : IsWhole (c :: s)

/-- the fraction of a number, if it has one -/
inductive IsFraction : List Char → Prop
  | none : IsFraction []
  | digits {s} (hs : IsDigits s) : IsFraction ('.' :: s)

/-- the power of ten of a number, if it has one -/
inductive IsExponent : List Char → Prop
  | none : IsExponent []
  | digits {e sign s} (he : e = 'e' ∨ e = 'E') (hsign : sign = [] ∨ sign = ['+'] ∨ sign = ['-'])
    (hs : IsDigits s) : IsExponent (e :: (sign ++ s))

/-- a number -/
inductive IsNumeral : List Char → Prop
  | mk {minus whole fraction exponent} (hminus : minus = [] ∨ minus = ['-'])
    (hwhole : IsWhole whole) (hfraction : IsFraction fraction) (hexponent : IsExponent exponent) :
    IsNumeral (minus ++ (whole ++ (fraction ++ exponent)))

/-- a hexadecimal digit of either case -/
def IsHex (c : Char) : Prop := '0' ≤ c ∧ c ≤ '9' ∨ 'a' ≤ c ∧ c ≤ 'f' ∨ 'A' ≤ c ∧ c ≤ 'F'

/-- what stands between the quotes of a string -/
inductive IsBody : List Char → Prop
  | nil : IsBody []
  | plain {c s} (hquote : c ≠ '"') (hbackslash : c ≠ '\\') (hcontrol : 0x20 ≤ c.toNat)
    (h : IsBody s) : IsBody (c :: s)
  | letter {c s} (hc : c ∈ ['"', '\\', '/', 'b', 'f', 'n', 'r', 't']) (h : IsBody s) :
    IsBody ('\\' :: c :: s)
  | unit {c₁ c₂ c₃ c₄ s} (h₁ : IsHex c₁) (h₂ : IsHex c₂) (h₃ : IsHex c₃) (h₄ : IsHex c₄)
    (h : IsBody s) : IsBody ('\\' :: 'u' :: c₁ :: c₂ :: c₃ :: c₄ :: s)

/-- spaces, tabs and line ends -/
def IsBlank (s : List Char) : Prop := ∀ c ∈ s, isSpace c = true

/-- the name of a member, between blanks -/
inductive IsName : List Char → Prop
  | mk {w body w'} (hw : IsBlank w) (hbody : IsBody body) (hw' : IsBlank w') :
    IsName (w ++ '"' :: (body ++ '"' :: w'))

/-- a JSON value, between blanks -/
inductive JsonText : List Char → Prop
  | null : JsonText ['n', 'u', 'l', 'l']
  | true : JsonText ['t', 'r', 'u', 'e']
  | false : JsonText ['f', 'a', 'l', 's', 'e']
  | numeral {s} (h : IsNumeral s) : JsonText s
  | string {s} (h : IsBody s) : JsonText ('"' :: (s ++ ['"']))
  | emptyArray {w} (hw : IsBlank w) : JsonText ('[' :: (w ++ [']']))
  | array {items : List (List Char)} (hne : items ≠ []) (h : ∀ s ∈ items, JsonText s) :
    JsonText ('[' :: (Text.join ',' items ++ [']']))
  | emptyObject {w} (hw : IsBlank w) : JsonText ('\x7b' :: (w ++ ['\x7d']))
  | object {members : List (List Char × List Char)} (hne : members ≠ [])
    (hname : ∀ m ∈ members, IsName m.1) (h : ∀ m ∈ members, JsonText m.2) :
    JsonText ('\x7b' :: (Text.join ',' (members.map fun m => m.1 ++ ':' :: m.2) ++ ['\x7d']))
  | padded {w s w'} (hw : IsBlank w) (hw' : IsBlank w') (h : JsonText s) : JsonText (w ++ (s ++ w'))

/-! ### Numbers -/

namespace Numeral

open Text

variable {s : List Char}

theorem readMinus_append {minus : List Char} (hminus : minus = [] ∨ minus = ['-'])
    (hs : ∀ c ∈ s.head?, isDigit c = true) :
    ∃ negative, readMinus (minus ++ s) = (negative, s) := by
  rcases hminus with rfl | rfl
  · refine ⟨false, ?_⟩
    rw [List.nil_append]
    unfold readMinus
    split
    · next rest => exact absurd (hs '-' rfl) (by decide)
    · rfl
  · exact ⟨true, rfl⟩

theorem readSign_append {sign : List Char} (hsign : sign = [] ∨ sign = ['+'] ∨ sign = ['-'])
    (hs : IsDigits s) : ∃ negative, readSign (sign ++ s) = (negative, s) := by
  rcases hsign with rfl | rfl | rfl
  · refine ⟨false, ?_⟩
    rw [List.nil_append]
    unfold readSign
    split
    · exact absurd (hs.2 '-' List.mem_cons_self) (by decide)
    · exact absurd (hs.2 '+' List.mem_cons_self) (by decide)
    · rfl
  · exact ⟨false, rfl⟩
  · exact ⟨true, rfl⟩

theorem exists_readExponent? (h : IsExponent s) : ∃ e, readExponent? s = some e := by
  cases h with
  | none => exact ⟨_, rfl⟩
  | @digits e sign ds he hsign hs =>
    obtain ⟨negative, hread⟩ := readSign_append hsign hs
    refine ⟨some (negative, ds), ?_⟩
    simp [readExponent?, hread, he, hs.1, List.all_eq_true.mpr hs.2]

/-- An exponent begins with a letter. -/
theorem head?_exponent (h : IsExponent s) : ∀ c ∈ s.head?, c = 'e' ∨ c = 'E' := by
  cases h with
  | none => exact nofun
  | digits he _ _ =>
    rintro _ ⟨⟩
    exact he

theorem noDigit_exponent (h : IsExponent s) : NoDigit s := by
  intro c hc
  rcases head?_exponent h c hc with rfl | rfl <;> decide

theorem noDigit_fraction {fraction : List Char} (hf : IsFraction fraction) (he : IsExponent s) :
    NoDigit (fraction ++ s) := by
  cases hf with
  | none => exact noDigit_exponent he
  | digits _ =>
    rintro _ ⟨⟩
    rfl

theorem exists_readFraction? {fraction : List Char} (hf : IsFraction fraction)
    (he : IsExponent s) : ∃ f, readFraction? (fraction ++ s) = some (f, s) := by
  cases hf with
  | none =>
    refine ⟨none, ?_⟩
    rw [List.nil_append]
    unfold readFraction?
    split
    · rcases head?_exponent he '.' rfl with h | h <;> exact absurd h (by decide)
    · rfl
  | @digits ds hs =>
    obtain ⟨hne, hall⟩ := hs
    have hnot := noDigit_exponent he
    refine ⟨some ds, ?_⟩
    simp [readFraction?, takeWhile_isDigit hall hnot, dropWhile_isDigit hall hnot, hne]

theorem exists_ofWord? (h : IsNumeral s) : ∃ n, ofWord? s = some n := by
  cases h with
  | @mk minus whole fraction exponent hminus hwhole hfraction hexponent =>
    have hnot := noDigit_fraction hfraction hexponent
    obtain ⟨f, hf⟩ := exists_readFraction? hfraction hexponent
    obtain ⟨e, he⟩ := exists_readExponent? hexponent
    obtain ⟨hne, hall, hplain⟩ : whole ≠ [] ∧ (∀ c ∈ whole, isDigit c = true) ∧
        isPlain whole = true := by
      cases hwhole with
      | zero => exact ⟨by simp, by simp; rfl, rfl⟩
      | @digits c ds hc hzero hds =>
        exact ⟨by simp, List.forall_mem_cons.mpr ⟨hc, hds⟩, by simp [isPlain, hzero]⟩
    have hhead : ∀ c ∈ (whole ++ (fraction ++ exponent)).head?, isDigit c = true := by
      intro c hc
      rw [List.head?_append_of_ne_nil _ hne] at hc
      exact hall c (List.mem_of_head? hc)
    obtain ⟨negative, hsign⟩ := readMinus_append hminus hhead
    refine ⟨⟨negative, whole, f, e⟩, ?_⟩
    simp [ofWord?, hsign, takeWhile_isDigit hall hnot, dropWhile_isDigit hall hnot, hne, hplain, hf,
      he]

end Numeral

/-- The characters are neither blanks nor quotes, and no brackets, commas or colons. -/
def OfWord (s : List Char) : Prop := ∀ c ∈ s, isWordChar c = true

theorem OfWord.append {s s' : List Char} (h : OfWord s) (h' : OfWord s') : OfWord (s ++ s') :=
  fun c hc => (List.mem_append.mp hc).elim (h c) (h' c)

theorem OfWord.cons {c : Char} {s : List Char} (hc : isWordChar c = true) (h : OfWord s) :
    OfWord (c :: s) :=
  List.forall_mem_cons.mpr ⟨hc, h⟩

theorem ofWord_of_isDigit {s : List Char} (h : ∀ c ∈ s, Text.isDigit c = true) : OfWord s :=
  fun c hc => isWordChar_of_isDigit (h c hc)

theorem IsNumeral.ofWord {s : List Char} (h : IsNumeral s) : OfWord s := by
  cases h with
  | @mk minus whole fraction exponent hminus hwhole hfraction hexponent =>
    have hminus : OfWord minus := by
      rcases hminus with rfl | rfl
      · exact nofun
      · exact .cons (by decide) nofun
    have hwhole : OfWord whole := by
      cases hwhole with
      | zero => exact .cons (by decide) nofun
      | digits hc _ hs => exact .cons (isWordChar_of_isDigit hc) (ofWord_of_isDigit hs)
    have hfraction : OfWord fraction := by
      cases hfraction with
      | none => exact nofun
      | digits hs => exact .cons (by decide) (ofWord_of_isDigit hs.2)
    have hexponent : OfWord exponent := by
      cases hexponent with
      | none => exact nofun
      | @digits e sign ds he hsign hs =>
        have hsign : OfWord sign := by
          rcases hsign with rfl | rfl | rfl
          · exact nofun
          · exact .cons (by decide) nofun
          · exact .cons (by decide) nofun
        refine .cons ?_ (hsign.append (ofWord_of_isDigit hs.2))
        rcases he with rfl | rfl <;> decide
    exact hminus.append (hwhole.append (hfraction.append hexponent))

theorem IsNumeral.exists_reads {s : List Char} (h : IsNumeral s) : ∃ t, Reads s t := by
  obtain ⟨n, hn⟩ := Numeral.exists_ofWord? h
  have hne : s ≠ [] := by
    rintro rfl
    cases hn
  have hother : ∀ w, Numeral.ofWord? w = none → s ≠ w := by
    rintro w hw rfl
    rw [hn] at hw
    cases hw
  refine ⟨.number n, reads_word hne (List.all_eq_true.mpr h.ofWord) ?_⟩
  rw [wordTree?, if_neg (hother _ (by decide)), if_neg (hother _ (by decide)),
    if_neg (hother _ (by decide)), hn, Option.map_some]

/-! ### Strings -/

open Reader

theorem exists_hexValue? {c : Char} (h : IsHex c) : ∃ n, hexValue? c = some n := by
  unfold hexValue?
  rcases h with h | h | h
  · exact ⟨_, if_pos h⟩
  · split <;> exact ⟨_, rfl⟩
  · split
    · exact ⟨_, rfl⟩
    · split <;> exact ⟨_, rfl⟩

/-- What stands between the quotes is read as pieces at any place. -/
theorem IsBody.exists_read {s : List Char} (h : IsBody s) (read : List Piece) :
    ∃ read', ∀ place, run? ⟨.string read, place⟩ s = some ⟨.string read', place⟩ := by
  induction h generalizing read with
  | nil => exact ⟨read, fun _ => rfl⟩
  | @plain c s hquote hbackslash hcontrol _ ih =>
    obtain ⟨read', hread⟩ := ih (.char c :: read)
    refine ⟨read', fun place => ?_⟩
    rw [run?_cons, ← hread place]
    simp [step, hquote, hbackslash, Nat.not_lt.mpr hcontrol]
  | @letter c s hc _ ih =>
    have hletter : ∃ e, escaped? c = some e ∧ c ≠ 'u' := by
      simp only [List.mem_cons, List.not_mem_nil, or_false] at hc
      rcases hc with rfl | rfl | rfl | rfl | rfl | rfl | rfl | rfl <;> exact ⟨_, rfl, by decide⟩
    obtain ⟨e, he, hu⟩ := hletter
    obtain ⟨read', hread⟩ := ih (.char e :: read)
    refine ⟨read', fun place => ?_⟩
    rw [run?_cons, ← hread place]
    simp [step, run?, he, hu]
  | @unit c₁ c₂ c₃ c₄ s h₁ h₂ h₃ h₄ _ ih =>
    obtain ⟨n₁, hn₁⟩ := exists_hexValue? h₁
    obtain ⟨n₂, hn₂⟩ := exists_hexValue? h₂
    obtain ⟨n₃, hn₃⟩ := exists_hexValue? h₃
    obtain ⟨n₄, hn₄⟩ := exists_hexValue? h₄
    obtain ⟨read', hread⟩ := ih (.unit (16 * (16 * (16 * (16 * 0 + n₁) + n₂) + n₃) + n₄) :: read)
    refine ⟨read', fun place => ?_⟩
    rw [← hread place]
    simp [step, run?, hn₁, hn₂, hn₃, hn₄]

theorem IsBody.exists_literal {s : List Char} (h : IsBody s) :
    ∃ pieces, Literal (s.map some) pieces := by
  obtain ⟨read, hread⟩ := h.exists_read []
  exact ⟨read.reverse, fun place => by rw [List.reverse_reverse]; exact hread place⟩

theorem IsBody.exists_reads {s : List Char} (h : IsBody s) :
    ∃ t, Reads ('"' :: (s ++ ['"'])) t := by
  obtain ⟨pieces, hliteral⟩ := h.exists_literal
  refine ⟨.string pieces, fun place outer hplace => ?_⟩
  have hnext : place.next? (.string pieces) = some (.after outer (.string pieces)) := by
    cases hplace <;> rfl
  refine ⟨_, ?_, .between⟩
  have hpass := hliteral.pass?_eq hnext []
  simpa [run?, pass?] using hpass

/-! ### Blanks -/

theorem IsBlank.blank {w : List Char} (h : IsBlank w) : Blank (w.map some) := by
  intro g hg
  obtain ⟨c, hc, rfl⟩ := List.mem_map.mp hg
  exact ⟨c, rfl, h c hc⟩

/-- Behind a value blanks may stand. -/
theorem Reader.Behind.run?_blank {r : Reader} {place : Place} (h : r.Behind place) {w : List Char}
    (hw : IsBlank w) : ∃ r', r.run? w = some r' ∧ r'.Behind place := by
  cases w with
  | nil => exact ⟨r, rfl, h⟩
  | cons c w =>
    obtain ⟨hc, hrest⟩ := List.forall_mem_cons.mp hw
    have hstep : r.step (some c) = some ⟨.between, place⟩ := by
      cases h with
      | between => simp [step, stepBetween, hc]
      | word hword => simp [step, stepBetween, hc, hword]
    refine ⟨⟨.between, place⟩, ?_, .between⟩
    rw [run?_cons_of_eq hstep]
    exact pass?_blank place (IsBlank.blank hrest)

theorem Reads.padded {w s w' : List Char} {t : Tree} (h : Reads s t) (hw : IsBlank w)
    (hw' : IsBlank w') : Reads (w ++ (s ++ w')) t := by
  intro place outer hplace
  obtain ⟨r, hrun, hr⟩ := h hplace
  obtain ⟨r', hrun', hr'⟩ := hr.run?_blank hw'
  refine ⟨r', ?_, hr'⟩
  have hblank : run? ⟨.between, place⟩ w = some ⟨.between, place⟩ := pass?_blank place hw.blank
  rw [run?_append_of_eq hblank, run?_append_of_eq hrun, hrun']

/-! ### Values -/

theorem join_cons (s s' : List Char) (texts : List (List Char)) :
    Text.join ',' (s :: s' :: texts) = s ++ ',' :: Text.join ',' (s' :: texts) := rfl

/-- Items with commas between them, and a bracket, end the array. -/
theorem exists_items {items : List (List Char)} (h : ∀ s ∈ items, ∃ t, Reads s t)
    (hne : items ≠ []) :
    ∃ trees, ∀ ⦃place before outer⦄, Place.Starts place (.array before :: outer) →
      run? ⟨.between, place⟩ (Text.join ',' items ++ [']']) =
        some ⟨.between, .after outer (.array (before.reverse ++ trees))⟩ := by
  induction items with
  | nil => exact absurd rfl hne
  | cons s items ih =>
    obtain ⟨⟨t, ht⟩, hrest⟩ := List.forall_mem_cons.mp h
    cases items with
    | nil =>
      refine ⟨[t], fun place before outer hplace => ?_⟩
      obtain ⟨r, hrun, hr⟩ := ht hplace
      rw [Text.join, run?_append_of_eq hrun, hr.run?_punctuation .closeArray rfl rfl,
        List.reverse_cons]
      rfl
    | cons s' items =>
      obtain ⟨trees, htrees⟩ := ih hrest (List.cons_ne_nil _ _)
      refine ⟨t :: trees, fun place before outer hplace => ?_⟩
      obtain ⟨r, hrun, hr⟩ := ht hplace
      rw [join_cons, List.append_assoc, run?_append_of_eq hrun, List.cons_append,
        hr.run?_punctuation .comma rfl rfl, htrees (.value _)]
      simp

/-- A name and a value make the text of a member. -/
theorem IsName.exists_memberText {k v : List Char} {t : Tree} (hk : IsName k) (hv : Reads v t) :
    ∃ pieces, MemberText ((k ++ ':' :: v).map some) (pieces, t) := by
  cases hk with
  | @mk w body w' hw hbody hw' =>
    obtain ⟨pieces, hliteral⟩ := hbody.exists_literal
    refine ⟨pieces, ?_⟩
    have htext := MemberText.mk hw.blank hliteral hw'.blank hv.read?_eq
    simpa using htext

theorem map_join (texts : List (List Char)) :
    (Text.join ',' texts).map some = [some ','].intercalate (texts.map (List.map some)) := by
  induction texts with
  | nil => rfl
  | cons s texts ih =>
    cases texts with
    | nil => simp [Text.join]
    | cons s' texts =>
      rw [join_cons, List.map_append, List.map_cons, ih]
      simp only [List.map_cons, List.intercalate_cons_cons, List.append_assoc,
        List.singleton_append]

/-- Names and values make the texts of members. -/
theorem exists_memberTexts {members : List (List Char × List Char)}
    (hname : ∀ m ∈ members, IsName m.1) (h : ∀ m ∈ members, ∃ t, Reads m.2 t) :
    ∃ trees, List.Forall₂ MemberText
      ((members.map fun m => m.1 ++ ':' :: m.2).map (List.map some)) trees := by
  induction members with
  | nil => exact ⟨[], .nil⟩
  | cons m members ih =>
    obtain ⟨hm, hnames⟩ := List.forall_mem_cons.mp hname
    obtain ⟨⟨t, ht⟩, hrest⟩ := List.forall_mem_cons.mp h
    obtain ⟨pieces, htext⟩ := hm.exists_memberText ht
    obtain ⟨trees, htrees⟩ := ih hnames hrest
    exact ⟨(pieces, t) :: trees, .cons htext htrees⟩

/-- **What the grammar derives is read**, wherever a value may start. -/
theorem JsonText.exists_reads {s : List Char} (h : JsonText s) : ∃ t, Reads s t := by
  induction h with
  | null => exact ⟨_, reads_word (by decide) (by decide) rfl⟩
  | true => exact ⟨_, reads_word (by decide) (by decide) rfl⟩
  | false => exact ⟨_, reads_word (by decide) (by decide) rfl⟩
  | numeral h => exact h.exists_reads
  | string h => exact h.exists_reads
  | @emptyArray w hw =>
    refine ⟨.array [], reads_container Place.Starts.step_openArray fun outer => ?_⟩
    rw [run?_append_of_eq (pass?_blank _ hw.blank)]
    rfl
  | @array items hne _ ih =>
    obtain ⟨trees, htrees⟩ := exists_items ih hne
    exact ⟨.array trees,
      reads_container Place.Starts.step_openArray fun outer => htrees (.firstItem outer)⟩
  | @emptyObject w hw =>
    refine ⟨.object [], reads_container Place.Starts.step_openObject fun outer => ?_⟩
    rw [run?_append_of_eq (pass?_blank _ hw.blank)]
    rfl
  | @object members hne hname _ ih =>
    obtain ⟨trees, htrees⟩ := exists_memberTexts hname ih
    refine ⟨.object trees, reads_container Place.Starts.step_openObject fun outer => ?_⟩
    have hpass := pass?_members htrees (by simpa using hne) (.firstKey outer) []
    rw [← map_join] at hpass
    simpa [run?, pass?] using hpass
  | padded hw hw' _ ih =>
    obtain ⟨t, ht⟩ := ih
    exact ⟨t, ht.padded hw hw'⟩

end FabricRegistry.Json
