import FabricRegistry.Json.Printer
import FabricRegistry.Json.Record
import FabricRegistry.Proofs.Text.Decimal
import Mathlib.Algebra.Group.Int.Defs

/-!
What is written of a string and of an integer, and what it denotes: the pieces of a string spell it,
and the numeral of an integer is that integer as far as 64 bits hold it.
-/

namespace FabricRegistry.Json

/-! ### Strings -/

/-- the controls that are written by a letter -/
def letteredControls : List Char := ['\x08', '\x0c', '\n', '\r', '\t']

/-- the piece that a character is written as -/
def Piece.ofChar (c : Char) : Piece :=
  if c.toNat < 0x20 ∧ c ∉ letteredControls then .unit c.toNat else .char c

/-- the pieces that a text is written as -/
def Piece.ofText (s : String) : List Piece := s.toList.map ofChar

theorem Piece.spell?_ofChar (c : Char) (rest : List Piece) :
    spell? (ofChar c :: rest) = (spell? rest).map (c :: ·) := by
  unfold ofChar
  split
  · next h =>
    have hhigh : isHighSurrogate c.toNat = false := by
      unfold isHighSurrogate
      simpa using fun hge => by omega
    have hlow : isLowSurrogate c.toNat = false := by
      unfold isLowSurrogate
      simpa using fun hge => by omega
    rw [spell?.eq_def]
    simp [hhigh, hlow, Char.ofNat_toNat]
  · rfl

theorem Piece.spell?_map_ofChar (s : List Char) : spell? (s.map ofChar) = some s := by
  induction s with
  | nil => rfl
  | cons c s ih => rw [List.map_cons, spell?_ofChar, ih, Option.map_some]

/-- **A text is spelled by the pieces that it is written as.** -/
@[simp]
theorem Piece.text?_ofText (s : String) : text? (ofText s) = some s := by
  simp [text?, ofText, spell?_map_ofChar]

/-! ### Integers -/

/-- the numeral that an integer is written as -/
def Numeral.ofInt (n : ℤ) : Numeral where
  negative := n < 0
  whole := Text.digits n.natAbs
  fraction := none
  exponent := none

theorem Numeral.isPlain_digits (n : ℕ) : isPlain (Text.digits n) = true := by
  rcases Nat.eq_zero_or_pos n with rfl | hpos
  · simp [isPlain, Text.digits_of_lt]
  · simp [isPlain, Text.head?_digits_ne hpos]

theorem Numeral.readMinus_digits (n : ℕ) : readMinus (Text.digits n) = (false, Text.digits n) := by
  have hdigits := List.all_eq_true.mp (Text.all_isDigit_digits n)
  unfold readMinus
  split
  · next rest h => exact absurd (hdigits '-' (h ▸ List.mem_cons_self)) (by decide)
  · rfl

/-- the numeral of written digits behind their sign -/
theorem Numeral.ofWord?_of_readMinus {word : List Char} {negative : Bool} {n : ℕ}
    (h : readMinus word = (negative, Text.digits n)) :
    ofWord? word = some ⟨negative, Text.digits n, none, none⟩ := by
  have hdigits := List.all_eq_true.mp (Text.all_isDigit_digits n)
  have hwhole : (Text.digits n ++ []).takeWhile Text.isDigit = Text.digits n :=
    Text.takeWhile_isDigit hdigits nofun
  have hrest : (Text.digits n ++ []).dropWhile Text.isDigit = [] :=
    Text.dropWhile_isDigit hdigits nofun
  rw [List.append_nil] at hwhole hrest
  simp [ofWord?, h, hwhole, hrest, Text.digits_ne_nil, isPlain_digits, readFraction?,
    readExponent?]

theorem Numeral.ofWord?_intChars (n : ℤ) : ofWord? (intChars n) = some (ofInt n) := by
  cases n with
  | ofNat n => exact ofWord?_of_readMinus (readMinus_digits n)
  | negSucc n =>
    have hminus : readMinus ('-' :: Text.digits (n + 1)) = (true, Text.digits (n + 1)) := rfl
    rw [intChars, ofWord?_of_readMinus hminus]
    simp [ofInt, Int.negSucc_lt_zero]

/-- the integers that 64 bits hold, with or without a sign -/
def InRange (n : ℤ) : Prop := -2 ^ 63 ≤ n ∧ n < 2 ^ 64

/-- **The numeral of an integer denotes it.** -/
theorem Numeral.integer?_ofInt {n : ℤ} (h : InRange n) : (ofInt n).integer? = some n := by
  obtain ⟨hlow, hhigh⟩ := h
  have hpow : Nat.pow 2 63 = 9223372036854775808 := rfl
  have hsize : UInt64.size = 18446744073709551616 := rfl
  simp only [integer?, ofInt, Text.digitsValue_digits, hpow, hsize, Option.isSome_none,
    Bool.or_self, Bool.false_eq_true, if_false, decide_eq_true_eq]
  split
  · rw [if_pos (by omega)]
    exact congrArg some (by omega)
  · rw [if_pos (by omega)]
    exact congrArg some (by omega)

theorem Tree.natural?_ofInt {n bound : ℕ} (h : n < bound) (hbound : bound ≤ UInt64.size) :
    (Tree.number (.ofInt n)).natural? bound = some n := by
  have hsize : UInt64.size = 18446744073709551616 := rfl
  have hinteger : (Numeral.ofInt n).integer? = some (Int.ofNat n) :=
    Numeral.integer?_ofInt ⟨by omega, by omega⟩
  simp [natural?, Numeral.below?, hinteger, h]

/-! ### Words -/

/-- no blank, quote or bracket, comma or colon -/
def isWordChar (c : Char) : Bool := !(isSpace c || c = '"' || (punctuation? c).isSome)

theorem isWordChar_of_isDigit {c : Char} (h : Text.isDigit c = true) : isWordChar c = true := by
  have hall : ∀ n < 10, isWordChar (Text.digit n) = true := by decide
  obtain ⟨n, hn, rfl⟩ := Text.exists_digit h
  exact hall n hn

theorem all_isWordChar_intChars (n : ℤ) : (intChars n).all isWordChar = true := by
  have hdigits : ∀ n, (Text.digits n).all isWordChar = true := fun n =>
    List.all_eq_true.mpr fun c hc =>
      isWordChar_of_isDigit (List.all_eq_true.mp (Text.all_isDigit_digits n) c hc)
  cases n with
  | ofNat n => exact hdigits n
  | negSucc n =>
    rw [intChars, List.all_cons, hdigits (n + 1)]
    rfl

theorem intChars_ne_nil (n : ℤ) : intChars n ≠ [] := by
  cases n with
  | ofNat n => exact Text.digits_ne_nil n
  | negSucc n => exact List.cons_ne_nil _ _

theorem wordTree?_intChars (n : ℤ) : wordTree? (intChars n) = some (.number (.ofInt n)) := by
  have hnot : ∀ word, (Numeral.ofWord? word).isNone = true → intChars n ≠ word := by
    rintro word h rfl
    rw [Numeral.ofWord?_intChars] at h
    cases h
  rw [wordTree?, if_neg (hnot _ (by decide)), if_neg (hnot _ (by decide)),
    if_neg (hnot _ (by decide)), Numeral.ofWord?_intChars, Option.map_some]

end FabricRegistry.Json
