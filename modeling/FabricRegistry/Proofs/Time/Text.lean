import FabricRegistry.Proofs.Text.Decimal
import FabricRegistry.Proofs.Time.Calendar
import FabricRegistry.Timestamp

/-!
The canonical text of an instant denotes it. Every part of the text is read by itself: what follows
the part is left over, whatever it is. Only the year and the fraction end where their digits end.
-/

namespace FabricRegistry.Timestamp

variable {width n : ℕ} {ds rest : List Char}

/-! ### Digits -/

theorem noDigit_take (h : Text.NoDigit rest) (k : ℕ) : Text.NoDigit (rest.take k) := by
  cases rest with
  | nil => simpa using h
  | cons c rest =>
    cases k with
    | zero => exact nofun
    | succ k => exact h

/-- Digits are read up to the width, or to where they end before. -/
theorem readDigits?_append (hds : ∀ c ∈ ds, Text.isDigit c = true) (hne : ds ≠ [])
    (hwidth : ds.length = width ∨ ds.length ≤ width ∧ Text.NoDigit rest) :
    readDigits? width (ds ++ rest) = some (Text.digitsValue ds, rest) := by
  have htake : (ds ++ rest).take width = ds ++ rest.take (width - ds.length) := by
    rw [List.take_append, List.take_of_length_le (by omega)]
  have hend : Text.NoDigit (rest.take (width - ds.length)) := by
    rcases hwidth with heq | ⟨-, hrest⟩
    · rw [heq, Nat.sub_self, List.take_zero]
      exact nofun
    · exact noDigit_take hrest _
  simp [readDigits?, htake, Text.takeWhile_isDigit hds hend, hne]

theorem readDigits?_padded (hwidth : 0 < width) (h : n < 10 ^ width) (rest : List Char) :
    readDigits? width (Text.padded width n ++ rest) = some (n, rest) := by
  rw [readDigits?_append (Text.all_isDigit_padded width n) (Text.padded_ne_nil width n)
    (Or.inl (Text.length_padded hwidth h)), Text.digitsValue_padded]

/-- A number of two digits is read. -/
theorem readField?_padded (h : n < 100) (rest : List Char) :
    readField? (Text.padded 2 n ++ rest) = some (n, rest) := by
  rw [readField?, Text.trimFront_digits (Text.all_isDigit_padded 2 n) (Text.padded_ne_nil 2 n)]
  exact readDigits?_padded (by decide) h rest

/-! ### Years -/

theorem readYear?_digits (hds : ∀ c ∈ ds, Text.isDigit c = true) (hne : ds ≠ []) :
    readYear? (ds ++ rest) = (readDigits? 4 (ds ++ rest)).map fun r => ((r.1 : ℤ), r.2) := by
  rw [readYear?, Text.trimFront_digits hds hne]
  cases ds with
  | nil => exact absurd rfl hne
  | cons d ds =>
    have hd : Text.isDigit d = true := hds d List.mem_cons_self
    split
    · next h =>
      cases h
      exact absurd hd (by decide)
    · next h =>
      cases h
      exact absurd hd (by decide)
    · rfl

theorem readDigits?_signed (hrest : Text.NoDigit rest) (n : ℕ) :
    readDigits? (Text.padded 4 n ++ rest).length (Text.padded 4 n ++ rest) = some (n, rest) := by
  rw [readDigits?_append (Text.all_isDigit_padded 4 n) (Text.padded_ne_nil 4 n)
    (Or.inr ⟨by simp, hrest⟩), Text.digitsValue_padded]

/-- A year is read, with or without a sign. -/
theorem readYear?_yearChars (hrest : Text.NoDigit rest) (year : ℤ) :
    readYear? (yearChars year ++ rest) = some (year, rest) := by
  unfold yearChars
  split
  · next hyear =>
    rw [readYear?_digits (Text.all_isDigit_padded 4 _) (Text.padded_ne_nil 4 _),
      readDigits?_padded (by decide) (by omega), Option.map_some, Int.toNat_of_nonneg hyear.1]
  · split
    · have hsign : ∀ s, readYear? ('+' :: s) =
          (readDigits? s.length s).map fun r => ((r.1 : ℤ), r.2) := fun _ => rfl
      have hyear : (year.natAbs : ℤ) = year := by omega
      rw [List.cons_append, hsign, readDigits?_signed hrest, Option.map_some, hyear]
    · have hsign : ∀ s, readYear? ('-' :: s) =
          (readDigits? s.length s).map fun r => (-(r.1 : ℤ), r.2) := fun _ => rfl
      have hyear : -(year.natAbs : ℤ) = year := by omega
      rw [List.cons_append, hsign, readDigits?_signed hrest, Option.map_some, hyear]

/-! ### Fractions -/

theorem readNano?_padded (hwidth : 0 < width) (hle : width ≤ 9) (h : n < 10 ^ width)
    (hrest : Text.NoDigit rest) :
    readNano? ('.' :: (Text.padded width n ++ rest)) = some (n * 10 ^ (9 - width), rest) := by
  have hdigits := Text.all_isDigit_padded width n
  have hlength := Text.length_padded hwidth h
  have hkept : (Text.padded width n).take 9 = Text.padded width n :=
    List.take_of_length_le (by omega)
  simp [readNano?, Text.takeWhile_isDigit hdigits hrest, Text.dropWhile_isDigit hdigits hrest,
    Text.padded_ne_nil, hkept, hlength, Text.digitsValue_padded]

/-- A fraction is read, of as many digits as it has. -/
theorem readNano?_nanoChars (h : n < 1000000000) :
    readNano? (nanoChars n ++ ['Z']) = some (n, ['Z']) := by
  have hrest : Text.NoDigit ['Z'] := by simp [Text.NoDigit, Text.isDigit]
  unfold nanoChars
  split
  · next hzero =>
    subst hzero
    rfl
  · split
    · next hmillis =>
      have hn : n / 1000000 * 10 ^ (9 - 3) = n := by omega
      rw [List.cons_append, readNano?_padded (by decide) (by decide) (by omega) hrest, hn]
    · split
      · next hmicros =>
        have hn : n / 1000 * 10 ^ (9 - 6) = n := by omega
        rw [List.cons_append, readNano?_padded (by decide) (by decide) (by omega) hrest, hn]
      · rw [List.cons_append, readNano?_padded (by decide) (by decide) (by omega) hrest,
          Nat.sub_self, Nat.pow_zero, Nat.mul_one]

/-! ### Instants -/

theorem ofLocal?_self (t : Timestamp) :
    ofLocal? t.date t.hour t.minute t.second t.nano 0 = some t := by
  have hhour := t.hour.isLt
  have hminute := t.minute.isLt
  have hnotBefore : ¬ (60 * (t.hour.val : ℤ) + t.minute.val - 0 < 0) := by omega
  have hnotAfter : ¬ (1440 ≤ 60 * (t.hour.val : ℤ) + t.minute.val - 0) := by omega
  have hofDay : ((60 * (t.hour.val : ℤ) + t.minute.val - 0) % 1440).toNat =
      60 * t.hour.val + t.minute.val := by omega
  have hhourOf : (60 * t.hour.val + t.minute.val) / 60 = t.hour.val := by omega
  have hminuteOf : (60 * t.hour.val + t.minute.val) % 60 = t.minute.val := by omega
  simp only [ofLocal?, if_neg hnotBefore, if_neg hnotAfter, hofDay, hhourOf, hminuteOf,
    Option.bind_eq_bind, Option.bind_some, t.hour.isLt, t.second.isLt, t.nano.isLt, and_self,
    dif_pos]

/-- **An instant is read from its canonical text.** -/
theorem parse?_text (t : Timestamp) : parse? t.text = some t := by
  obtain ⟨-, hmonth⟩ := t.date.month_mem
  have hday := t.date.day_le
  have hhour := t.hour.isLt
  have hminute := t.minute.isLt
  have hsecond := t.second.isLt
  have hyear : ∀ s, Text.NoDigit ('-' :: s) := fun s => by simp [Text.NoDigit, Text.isDigit]
  have hhyphen : ∀ s, readSeparator? '-' ('-' :: s) = some s := fun _ => rfl
  have hcolon : ∀ s, readSeparator? ':' (':' :: s) = some s := fun _ => rfl
  rw [parse?, text, String.toList_ofList]
  simp only [List.append_assoc, List.cons_append]
  -- every part leaves the rest of the text to the next one
  refine Option.bind_eq_some_iff.mpr ⟨_, readYear?_yearChars (hyear _) _, ?_⟩
  refine Option.bind_eq_some_iff.mpr ⟨_, hhyphen _, ?_⟩
  refine Option.bind_eq_some_iff.mpr ⟨_, readField?_padded (by omega) _, ?_⟩
  refine Option.bind_eq_some_iff.mpr ⟨_, hhyphen _, ?_⟩
  refine Option.bind_eq_some_iff.mpr ⟨_, readField?_padded (by omega) _, ?_⟩
  refine Option.bind_eq_some_iff.mpr ⟨_, rfl, ?_⟩
  refine Option.bind_eq_some_iff.mpr ⟨_, readField?_padded (by omega) _, ?_⟩
  refine Option.bind_eq_some_iff.mpr ⟨_, hcolon _, ?_⟩
  refine Option.bind_eq_some_iff.mpr ⟨_, readField?_padded (by omega) _, ?_⟩
  refine Option.bind_eq_some_iff.mpr ⟨_, hcolon _, ?_⟩
  refine Option.bind_eq_some_iff.mpr ⟨_, readField?_padded (by omega) _, ?_⟩
  refine Option.bind_eq_some_iff.mpr ⟨_, readNano?_nanoChars t.nano.isLt, ?_⟩
  refine Option.bind_eq_some_iff.mpr ⟨(0, []), rfl, ?_⟩
  refine (if_neg ?_).trans ?_
  · rintro (hrest | hlate | hlate)
    · exact hrest rfl
    · omega
    · omega
  · exact Option.bind_eq_some_iff.mpr ⟨_, t.date.of?_self, ofLocal?_self t⟩

end FabricRegistry.Timestamp
