import FabricRegistry.Duration
import FabricRegistry.Proofs.Text.Decimal
import Mathlib.Data.List.Basic

/-!
How durations are written: a number in decimal, with a plus in front or without, and directly behind
it the letter of a unit or none. What is read of a text is what is left of it after trimming, and it
is read exactly when it is written so and the number and the seconds it comes to are below 2^64
(`reads_exactly`).
-/

namespace FabricRegistry.Duration

open Text (Denotes Stripped isDigit isBlank)

/-- What stands behind the number, and the seconds that each counts for. -/
inductive UnitText : List Char → ℕ → Prop where
  | plain : UnitText [] 1
  | seconds : UnitText ['s'] 1
  | minutes : UnitText ['m'] 60
  | hours : UnitText ['h'] 3600

/-- The text tells a number of units of `k` seconds each. -/
def Written (t : List Char) (n k : ℕ) : Prop :=
  ∃ count unit, t = count ++ unit ∧ Denotes count n ∧ UnitText unit k

/-- What no written duration has: blanks inside, no number, a minus or a plus that is not in front,
a last character beyond ASCII. -/
inductive Unreadable (t : List Char) : Prop where
  | blank {c : Char} (hc : c ∈ t) (h : isBlank c = true)
  | bareUnit {k : ℕ} (h : UnitText t k)
  | minus (h : '-' ∈ t)
  | plus (h : '+' ∈ t.tail)
  | foreign {c : Char} (hc : c ∈ t.getLast?) (h : 128 ≤ c.toNat)

variable {raw : String} {d : Duration} {t count unit : List Char} {c : Char} {n k : ℕ}

/-! ### Number and unit -/

theorem unit?_eq_some_iff : unit? c = some k ↔ UnitText [c] k := by
  constructor
  · intro h
    unfold unit? at h
    split at h <;> cases h
    · exact .seconds
    · exact .minutes
    · exact .hours
  · rintro (_ | _ | _ | _) <;> rfl

theorem unit?_of_isDigit (h : isDigit c = true) : unit? c = none := by
  have hall : ∀ n < 10, unit? (Text.digit n) = none := by decide
  obtain ⟨n, hn, rfl⟩ := Text.exists_digit h
  exact hall n hn

theorem amount_of_last (h : ∀ c ∈ t.getLast?, unit? c = none) : amount t = (t, 1) := by
  cases hlast : t.getLast? with
  | none => simp only [amount, hlast]
  | some c => simp only [amount, hlast, h c hlast]

theorem amount_append_singleton (h : unit? c = some k) : amount (count ++ [c]) = (count, k) := by
  simp [amount, h]

/-- A text is parted in two, and the second part is a unit. -/
theorem exists_unit (t : List Char) :
    ∃ unit, t = (amount t).1 ++ unit ∧ UnitText unit (amount t).2 := by
  by_cases h : ∃ c ∈ t.getLast?, ∃ k, unit? c = some k
  · obtain ⟨c, hc, k, hk⟩ := h
    obtain ⟨count, rfl⟩ := List.getLast?_eq_some_iff.mp hc
    rw [amount_append_singleton hk]
    exact ⟨[c], rfl, unit?_eq_some_iff.mp hk⟩
  · have hnone : ∀ c ∈ t.getLast?, unit? c = none := fun c hc =>
      Option.eq_none_iff_forall_ne_some.mpr fun k hk => h ⟨c, hc, k, hk⟩
    rw [amount_of_last hnone]
    exact ⟨[], (List.append_nil t).symm, .plain⟩

/-- The last digit of a number is not taken for a unit. -/
theorem amount_append (hcount : Denotes count n) (hunit : UnitText unit k) :
    amount (count ++ unit) = (count, k) := by
  cases hunit with
  | plain =>
    -- the last character is a digit here, and no digit is the letter of a unit
    rw [List.append_nil]
    obtain ⟨sign, ds, rfl, -, hds⟩ := hcount
    refine amount_of_last fun c hc => unit?_of_isDigit ?_
    rw [List.getLast?_append_of_ne_nil _ hds.ne_nil] at hc
    exact hds.isDigit (List.mem_of_getLast? hc)
  | seconds => exact amount_append_singleton rfl
  | minutes => exact amount_append_singleton rfl
  | hours => exact amount_append_singleton rfl

/-- **The texts that are read as a duration.** -/
theorem parse?_eq_some_iff : parse? raw = some d ↔ ∃ n k,
    Written (Text.trim raw.toList) n k ∧ n < 2 ^ 64 ∧ n * k < 2 ^ 64 ∧ d = ⟨n * k⟩ := by
  simp only [parse?, Option.bind_eq_bind, Option.bind_eq_some_iff, Text.readBelow?_eq_some_iff,
    Option.ite_none_right_eq_some, Option.some.injEq]
  constructor
  · rintro ⟨n, ⟨hcount, hn⟩, hseconds, rfl⟩
    obtain ⟨unit, ht, hunit⟩ := exists_unit (Text.trim raw.toList)
    exact ⟨n, _, ⟨_, unit, ht, hcount, hunit⟩, hn, hseconds, rfl⟩
  · rintro ⟨n, k, ⟨count, unit, ht, hcount, hunit⟩, hn, hseconds, rfl⟩
    rw [ht, amount_append hcount hunit]
    exact ⟨n, ⟨hcount, hn⟩, hseconds, rfl⟩

theorem lt_of_parse? (h : parse? raw = some d) : d.seconds < UInt64.size := by
  obtain ⟨n, k, -, -, hseconds, rfl⟩ := parse?_eq_some_iff.mp h
  exact hseconds

/-- Digits without a unit count seconds. -/
theorem parse?_digits (h : n < UInt64.size) :
    parse? (String.ofList (Text.digits n)) = some ⟨n⟩ := by
  have hdigits := List.all_eq_true.mp (Text.all_isDigit_digits n)
  refine parse?_eq_some_iff.mpr
    ⟨n, 1, ⟨Text.digits n, [], ?_, Text.denotes_digits n, .plain⟩, h, ?_⟩
  · rw [String.toList_ofList, Text.trim_digits hdigits, List.append_nil]
  · rw [Nat.mul_one]
    exact ⟨h, rfl⟩

/-! ### What is not read -/

theorem UnitText.eq_letter (h : UnitText unit k) (hc : c ∈ unit) : c = 's' ∨ c = 'm' ∨ c = 'h' := by
  cases h <;> simp_all

/-- A plus stands in front or nowhere; behind it are digits, one at least, and letters of units. -/
theorem Written.chars (h : Written t n k) : ∃ sign rest, t = sign ++ rest ∧
    (sign = [] ∨ sign = ['+']) ∧
    (∀ c ∈ rest, isDigit c = true ∨ c = 's' ∨ c = 'm' ∨ c = 'h') ∧
    ∃ c ∈ rest, isDigit c = true := by
  obtain ⟨_, unit, rfl, ⟨sign, ds, rfl, hsign, hds⟩, hunit⟩ := h
  refine ⟨sign, ds ++ unit, List.append_assoc .., hsign, fun c hc => ?_, ?_⟩
  · rcases List.mem_append.mp hc with hc | hc
    · exact Or.inl (hds.isDigit hc)
    · exact Or.inr (hunit.eq_letter hc)
  · obtain ⟨c, hc⟩ := List.exists_mem_of_ne_nil ds hds.ne_nil
    exact ⟨c, List.mem_append_left unit hc, hds.isDigit hc⟩

/-- A written duration has nothing of what spoils one. -/
theorem Written.not_unreadable (h : Written t n k) : ¬ Unreadable t := by
  obtain ⟨sign, rest, rfl, hsign, hrest, digit, hdigit, hisDigit⟩ := h.chars
  have hchar {c : Char} (hc : c ∈ sign ++ rest) :
      isDigit c = true ∨ c = '+' ∨ c = 's' ∨ c = 'm' ∨ c = 'h' := by
    rcases List.mem_append.mp hc with hc | hc
    · rcases hsign with rfl | rfl <;> simp_all
    · exact (hrest c hc).imp_right Or.inr
  intro hbad
  cases hbad with
  | blank hc hblank =>
    rcases hchar hc with hc | rfl | rfl | rfl | rfl
    · rw [Text.isBlank_of_isDigit hc] at hblank
      cases hblank
    all_goals exact absurd hblank (by decide)
  | bareUnit hunit =>
    rcases hunit.eq_letter (List.mem_append_right sign hdigit) with rfl | rfl | rfl
    all_goals exact absurd hisDigit (by decide)
  | minus hminus => exact absurd (hchar hminus) (by decide)
  | plus hplus =>
    have hplus : '+' ∈ rest := by
      rcases hsign with rfl | rfl
      · exact List.mem_of_mem_tail hplus
      · exact hplus
    exact absurd (hrest '+' hplus) (by decide)
  | foreign hc hforeign =>
    rcases hchar (List.mem_of_getLast? hc) with hc | rfl | rfl | rfl | rfl
    · obtain ⟨n, hn, rfl⟩ := Text.exists_digit hc
      have hall : ∀ n < 10, (Text.digit n).toNat < 128 := by decide
      exact absurd hforeign (Nat.not_le_of_lt (hall n hn))
    all_goals exact absurd hforeign (by decide)

theorem parse?_eq_none_iff : parse? raw = none ↔
    ∀ n k, Written (Text.trim raw.toList) n k → 2 ^ 64 ≤ n ∨ 2 ^ 64 ≤ n * k := by
  rw [Option.eq_none_iff_forall_ne_some]
  constructor
  · intro h n k hwritten
    by_contra! hlt
    exact h _ (parse?_eq_some_iff.mpr ⟨n, k, hwritten, hlt.1, hlt.2, rfl⟩)
  · intro h d hd
    obtain ⟨n, k, hwritten, hn, hseconds, -⟩ := parse?_eq_some_iff.mp hd
    rcases h n k hwritten with hle | hle
    · exact Nat.not_le_of_lt hn hle
    · exact Nat.not_le_of_lt hseconds hle

/-! ### Words of 64 bits -/

theorem UnitText.lt (h : UnitText unit k) : k < 2 ^ 64 := by
  cases h <;> decide

/-- A product below 2^64 is the product of words of 64 bits. -/
theorem exists_words (hn : n < 2 ^ 64) (hk : k < 2 ^ 64) (h : n * k < 2 ^ 64) :
    ∃ n' k' : UInt64, n'.toNat = n ∧ k'.toNat = k ∧ (n' * k').toNat = n * k := by
  have hn' : (UInt64.ofNat n).toNat = n := UInt64.toNat_ofNat_of_lt hn
  have hk' : (UInt64.ofNat k).toNat = k := UInt64.toNat_ofNat_of_lt hk
  exact ⟨.ofNat n, .ofNat k, hn', hk', by rw [UInt64.toNat_mul, hn', hk', Nat.mod_eq_of_lt h]⟩

/-- **Durations are read exactly as they are written.** Of every text, let `t` be what is left
without the white space at both its ends. A duration is read if `t` is written as a number below
2^64 and a unit, or none, that come to less than 2^64 seconds, and it has these seconds; nothing is
read of any other text. So nothing is read of a text that has white space inside, no number before
its unit, a sign other than one plus in front, or a last character beyond ASCII. Words of 64 bits
are enough to multiply, and the product does not wrap. -/
theorem reads_exactly (raw : String) : ∃ t, Stripped raw.toList t ∧
    (∀ d, parse? raw = some d ↔ ∃ n k, Written t n k ∧ n < 2 ^ 64 ∧ n * k < 2 ^ 64 ∧ d = ⟨n * k⟩) ∧
    (parse? raw = none ↔ ∀ n k, Written t n k → 2 ^ 64 ≤ n ∨ 2 ^ 64 ≤ n * k) ∧
    (Unreadable t → parse? raw = none) ∧
    ∀ d, parse? raw = some d → ∃ n k : UInt64, Written t n.toNat k.toNat ∧
      (n * k).toNat = n.toNat * k.toNat ∧ d.seconds = (n * k).toNat := by
  refine ⟨Text.trim raw.toList, Text.stripped_trim _, fun d => parse?_eq_some_iff,
    parse?_eq_none_iff, fun hbad => ?_, fun d hd => ?_⟩
  · exact parse?_eq_none_iff.mpr fun n k h => absurd hbad h.not_unreadable
  · obtain ⟨n, k, ⟨count, unit, ht, hcount, hunit⟩, hn, hseconds, rfl⟩ := parse?_eq_some_iff.mp hd
    obtain ⟨n', k', rfl, rfl, hproduct⟩ := exists_words hn hunit.lt hseconds
    exact ⟨n', k', ⟨count, unit, ht, hcount, hunit⟩, hproduct, hproduct.symm⟩

example : parse? " +015m\u2003" = some ⟨900⟩ := rfl

/-- More hours than these come to more seconds than a word of 64 bits has. -/
example : parse? "5124095576030431h" = some ⟨18446744073709551600⟩ ∧
    parse? "5124095576030432h" = none := ⟨rfl, rfl⟩

end FabricRegistry.Duration
