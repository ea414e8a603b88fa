import FabricRegistry.Proofs.Text.Trim
import FabricRegistry.Text.Decimal
import Mathlib.Algebra.Group.Nat.Defs
import Mathlib.Data.List.Induction
import Mathlib.Data.Nat.Digits.Defs

/-!
Numbers in a text: how long their digits are, what the zeros in front of them change, where the
digits end when something else follows, and which texts are read as a number
(`readBelow?_eq_some_iff`).
-/

namespace FabricRegistry.Text

variable {n width bound : ℕ} {s ds rest : List Char} {c : Char}

/-! ### The digits of a number -/

theorem digits_of_lt (h : n < 10) : digits n = [digit n] := by
  rw [digits, if_pos h]

theorem digits_of_le (h : 10 ≤ n) : digits n = digits (n / 10) ++ [digit (n % 10)] := by
  rw [digits, if_neg (by omega)]

theorem digit_ne_zero (hpos : 0 < n) (h : n < 10) : digit n ≠ '0' := by
  have hall : ∀ m < 10, 0 < m → digit m ≠ '0' := by decide
  exact hall n h hpos

/-- Only zero begins with a zero. -/
theorem head?_digits_ne (h : 0 < n) : (digits n).head? ≠ some '0' := by
  induction n using Nat.strongRecOn with
  | ind n ih =>
    by_cases hn : n < 10
    · simpa [digits_of_lt hn] using digit_ne_zero h hn
    · have hrest := ih (n / 10) (by omega) (by omega)
      rw [digits_of_le (by omega)]
      cases hds : digits (n / 10) with
      | nil => exact absurd hds (digits_ne_nil _)
      | cons d ds => simpa [hds] using hrest

theorem length_digits_le (hwidth : 0 < width) (h : n < 10 ^ width) : (digits n).length ≤ width := by
  induction width generalizing n with
  | zero => omega
  | succ width ih =>
    by_cases hn : n < 10
    · simp [digits_of_lt hn]
    · have hpos : 0 < width := by
        rcases Nat.eq_zero_or_pos width with rfl | hpos
        · simp at h
          omega
        · exact hpos
      have hrest := ih hpos (n := n / 10) (by rw [Nat.pow_succ] at h; omega)
      simpa [digits_of_le (Nat.le_of_not_lt hn)] using hrest

/-! ### Zeros in front -/

theorem all_isDigit_padded (width n : ℕ) : ∀ c ∈ padded width n, isDigit c = true := by
  intro c hc
  rcases List.mem_append.mp hc with hzero | hdigit
  · rw [(List.mem_replicate.mp hzero).2]
    rfl
  · exact List.all_eq_true.mp (all_isDigit_digits n) c hdigit

theorem padded_ne_nil (width n : ℕ) : padded width n ≠ [] := by
  simp [padded, digits_ne_nil]

theorem length_padded (hwidth : 0 < width) (h : n < 10 ^ width) :
    (padded width n).length = width := by
  have hdigits := length_digits_le hwidth h
  simp only [padded, List.length_append, List.length_replicate]
  omega

theorem digitsValue_padded (width n : ℕ) : digitsValue (padded width n) = n := by
  have hzeros : ∀ k, (List.replicate k '0').foldl (fun n c => 10 * n + digitValue c) 0 = 0 := by
    intro k
    induction k with
    | zero => rfl
    | succ k ih => simpa [List.replicate_succ, digitValue] using ih
  rw [digitsValue, padded, List.foldl_append, hzeros]
  exact digitsValue_digits n

/-! ### Digits before something else -/

/-- The text does not go on with a digit. -/
def NoDigit (s : List Char) : Prop := ∀ c ∈ s.head?, isDigit c = false

theorem takeWhile_isDigit (hds : ∀ c ∈ ds, isDigit c = true) (h : NoDigit rest) :
    (ds ++ rest).takeWhile isDigit = ds := by
  rw [List.takeWhile_append_of_pos hds]
  cases rest with
  | nil => simp
  | cons c rest => simp [h c rfl]

theorem dropWhile_isDigit (hds : ∀ c ∈ ds, isDigit c = true) (h : NoDigit rest) :
    (ds ++ rest).dropWhile isDigit = rest := by
  rw [List.dropWhile_append_of_pos hds]
  cases rest with
  | nil => simp
  | cons c rest => simp [h c rfl]

theorem exists_digit {c : Char} (h : isDigit c = true) : ∃ n < 10, c = digit n := by
  have hc : 48 ≤ c.toNat ∧ c.toNat ≤ 57 := by
    simpa [isDigit, Char.le_def, UInt32.le_iff_toNat_le] using h
  have hvalue : 48 + (c.toNat - 48) = c.toNat := by omega
  exact ⟨c.toNat - 48, by omega, by rw [digit, hvalue, Char.ofNat_toNat]⟩

theorem isBlank_of_isDigit {c : Char} (h : isDigit c = true) : isBlank c = false := by
  have hall : ∀ n < 10, isBlank (digit n) = false := by decide
  obtain ⟨n, hn, rfl⟩ := exists_digit h
  exact hall n hn

/-- No blank is trimmed off digits. -/
theorem trimFront_digits (hds : ∀ c ∈ ds, isDigit c = true) (hne : ds ≠ []) :
    trimFront (ds ++ rest) = ds ++ rest := by
  cases ds with
  | nil => exact absurd rfl hne
  | cons c ds => simp [trimFront, isBlank_of_isDigit (hds c (by simp))]

theorem trim_digits (hds : ∀ c ∈ ds, isDigit c = true) : trim ds = ds := by
  have hblank : ∀ c ∈ ds, isBlank c = false := fun c hc => isBlank_of_isDigit (hds c hc)
  exact Stripped.trim_eq ⟨⟨[], [], rfl, rfl, by simp⟩, fun c hc => hblank c (List.mem_of_head? hc),
    fun c hc => hblank c (List.mem_of_getLast? hc)⟩

/-! ### Numbers that are read -/

/-- A run of digits denotes a number in decimal, the most significant digit in front. -/
structure IsDecimal (ds : List Char) (n : ℕ) : Prop where
  ne_nil : ds ≠ []
  digits : ∀ c ∈ ds, '0' ≤ c ∧ c ≤ '9'
  value : n = Nat.ofDigits 10 (ds.reverse.map fun c => c.toNat - '0'.toNat)

/-- The text denotes a number: in decimal, with a plus in front or without. -/
def Denotes (s : List Char) (n : ℕ) : Prop :=
  ∃ sign ds, s = sign ++ ds ∧ (sign = [] ∨ sign = ['+']) ∧ IsDecimal ds n

theorem isDigit_iff : isDigit c = true ↔ '0' ≤ c ∧ c ≤ '9' := by
  simp [isDigit]

theorem IsDecimal.isDigit (h : IsDecimal ds n) (hc : c ∈ ds) : isDigit c = true :=
  isDigit_iff.mpr (h.digits c hc)

theorem digitsValue_eq_ofDigits (ds : List Char) :
    digitsValue ds = Nat.ofDigits 10 (ds.reverse.map fun c => c.toNat - '0'.toNat) := by
  induction ds using List.reverseRecOn with
  | nil => rfl
  | append_singleton ds c ih =>
    rw [digitsValue_append_singleton, ih, List.reverse_append, List.reverse_singleton,
      List.singleton_append, List.map_cons, Nat.ofDigits_cons, Nat.add_comm]
    rfl

theorem readDigits?_eq_some_iff : readDigits? ds = some n ↔ IsDecimal ds n := by
  rw [readDigits?, Option.ite_none_right_eq_some, Option.some.injEq, List.all_eq_true,
    digitsValue_eq_ofDigits]
  constructor
  · rintro ⟨⟨hne, hdigits⟩, rfl⟩
    exact ⟨hne, fun c hc => isDigit_iff.mp (hdigits c hc), rfl⟩
  · rintro ⟨hne, hdigits, rfl⟩
    exact ⟨⟨hne, fun c hc => isDigit_iff.mpr (hdigits c hc)⟩, rfl⟩

theorem denotes_digits (n : ℕ) : Denotes (digits n) n :=
  ⟨[], digits n, rfl, Or.inl rfl, readDigits?_eq_some_iff.mp (readDigits?_digits n)⟩

/-- **The texts that are read as a number**, which is below the bound. -/
theorem readBelow?_eq_some_iff : readBelow? bound s = some n ↔ Denotes s n ∧ n < bound := by
  unfold readBelow?
  simp only [Option.bind_eq_bind, Option.bind_eq_some_iff, readDigits?_eq_some_iff,
    Option.ite_none_right_eq_some, Option.some.injEq]
  constructor
  · rintro ⟨m, hm, hlt, rfl⟩
    refine ⟨?_, hlt⟩
    split at hm
    · next rest => exact ⟨['+'], rest, rfl, Or.inr rfl, hm⟩
    · exact ⟨[], s, rfl, Or.inl rfl, hm⟩
  · rintro ⟨⟨sign, ds, rfl, hsign, hds⟩, hlt⟩
    refine ⟨n, ?_, hlt, rfl⟩
    rcases hsign with rfl | rfl
    · -- digits alone are not taken for what stands behind a plus
      split
      · next rest heq =>
        have hplus := hds.isDigit (by rw [← List.nil_append ds, heq]; exact List.mem_cons_self)
        exact absurd hplus (by decide)
      · exact hds
    · exact hds

end FabricRegistry.Text
