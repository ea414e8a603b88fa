import FabricRegistry.Proofs.Time.Calendar
import FabricRegistry.Timestamp

/-!
Instants in microseconds. What an instant has beyond whole microseconds is cut off, and a leap
second counts as the second after it; every other instant is the instant of its microseconds.
-/

namespace FabricRegistry.Timestamp

variable {t : Timestamp}

/-- a whole number of microseconds, outside a leap second -/
def IsWhole (t : Timestamp) : Prop := t.second.val < 60 ∧ t.nano.val % 1000 = 0

instance (t : Timestamp) : Decidable t.IsWhole := inferInstanceAs (Decidable (_ ∧ _))

/-- the seconds since the beginning of the day -/
def secondOfDay (t : Timestamp) : ℤ := t.hour.val * 3600 + t.minute.val * 60 + t.second.val

/-- the nanoseconds since the first of January 2000 -/
def sinceEpoch (t : Timestamp) : ℤ :=
  ((t.date.dayNumber - postgresEpoch) * 86400 + t.secondOfDay) * 1000000000 + t.nano.val

theorem micros_eq (t : Timestamp) :
    t.micros = t.sinceEpoch.tdiv 1000 + postgresEpoch * 86400000000 := by
  simp only [micros, sinceEpoch, secondOfDay, add_assoc]

theorem tdiv_eq (x : ℤ) : x.tdiv 1000 = if 0 ≤ x then x / 1000 else -(-x / 1000) := by
  split
  · next h => exact Int.tdiv_eq_ediv_of_nonneg h
  · rw [← Int.neg_neg x, Int.neg_tdiv, Int.tdiv_eq_ediv_of_nonneg (by omega), Int.neg_neg]

theorem secondOfDay_mem (t : Timestamp) :
    0 ≤ t.secondOfDay ∧ (t.secondOfDay < 86400 ∨ t.second.val = 60 ∧ t.secondOfDay = 86400) := by
  unfold secondOfDay
  omega

/-! ### Whole microseconds -/

/-- the instant of a date, a second of the day and a microsecond -/
def ofParts (date : Date) (second : Fin 86400) (micro : Fin 1000000) : Timestamp where
  date := date
  hour := ⟨second / 3600, by omega⟩
  minute := ⟨second / 60 % 60, by omega⟩
  second := ⟨second % 60, by omega⟩
  nano := ⟨micro * 1000, by omega⟩

variable {date : Date} {second : Fin 86400} {micro : Fin 1000000}

theorem isWhole_ofParts : (ofParts date second micro).IsWhole :=
  ⟨Nat.mod_lt _ (by decide), Nat.mul_mod_left _ _⟩

theorem clock_eq (hour : ℕ) {minute second : ℕ} (hm : minute < 60) (hs : second < 60) :
    (hour * 3600 + minute * 60 + second) / 3600 = hour ∧
      (hour * 3600 + minute * 60 + second) / 60 % 60 = minute ∧
      (hour * 3600 + minute * 60 + second) % 60 = second := by
  omega

theorem eq_ofParts (h : t.IsWhole) : ∃ second micro, t = ofParts t.date second micro := by
  obtain ⟨date, hour, minute, second, nano⟩ := t
  obtain ⟨hsecond, hnano⟩ := h
  dsimp only at hsecond hnano
  obtain ⟨hhourOf, hminuteOf, hsecondOf⟩ := clock_eq hour.val minute.isLt hsecond
  refine ⟨⟨hour.val * 3600 + minute.val * 60 + second.val, by omega⟩,
    ⟨nano.val / 1000, by omega⟩, ?_⟩
  have hnanoOf : nano.val / 1000 * 1000 = nano.val :=
    Nat.div_mul_cancel (Nat.dvd_of_mod_eq_zero hnano)
  simp [ofParts, hhourOf, hminuteOf, hsecondOf, hnanoOf]

theorem micros_ofParts : (ofParts date second micro).micros =
    date.dayNumber * 86400000000 + (second.val * 1000000 + micro.val) := by
  have hsecond : (ofParts date second micro).secondOfDay = second.val := by
    simp only [secondOfDay, ofParts]
    omega
  have hsince : (ofParts date second micro).sinceEpoch =
      ((date.dayNumber - postgresEpoch) * 86400 + second.val) * 1000000000 + micro.val * 1000 := by
    rw [sinceEpoch, hsecond]
    simp [ofParts]
  rw [micros_eq, tdiv_eq, hsince]
  split <;> omega

theorem ofMicros?_eq {n : ℤ}
    (hn : n = date.dayNumber * 86400000000 + (second.val * 1000000 + micro.val)) :
    ofMicros? n = some (ofParts date second micro) := by
  have hday : n / 86400000000 = date.dayNumber := by omega
  have hrest : (n % 86400000000).toNat = second.val * 1000000 + micro.val := by omega
  have hsecond : (second.val * 1000000 + micro.val) / 1000000 = second.val := by omega
  have hmicro : (second.val * 1000000 + micro.val) % 1000000 = micro.val := by omega
  have hhour : second.val / 3600 < 24 := by omega
  simp [ofMicros?, ofParts, hday, Date.ofDayNumber?_dayNumber, hrest, hsecond, hmicro, hhour]

/-- **A whole number of microseconds is kept.** -/
theorem ofMicros?_micros (h : t.IsWhole) : ofMicros? t.micros = some t := by
  obtain ⟨second, micro, ht⟩ := eq_ofParts h
  have hmicros : t.micros =
      t.date.dayNumber * 86400000000 + (second.val * 1000000 + micro.val) := by
    conv_lhs => rw [ht]
    exact micros_ofParts
  rw [ofMicros?_eq hmicros, ← ht]

theorem year_lt_of_dayNumber_lt (h : date.dayNumber < postgresEpoch) : date.year < lastYear := by
  have hdays := date.daysSinceMarch_mem.1
  have hyear : date.year - 1 ≤ date.marchYear := by
    unfold Date.marchYear
    split <;> omega
  rw [date.dayNumber_eq] at h
  by_contra hlast
  have hlate : 262141 ≤ date.marchYear := by
    unfold lastYear at hlast
    omega
  unfold postgresEpoch at h
  omega

/-- Every instant is stored as a whole number of microseconds, but for the leap second that ends the
calendar. -/
theorem exists_whole (h : t.second.val < 60 ∨ t.date.year < lastYear) :
    ∃ t' : Timestamp, t'.IsWhole ∧ t'.micros = t.micros := by
  have hofDay := t.secondOfDay_mem
  have hnano := t.nano.isLt
  -- the microsecond of the day, which may be one of the next day
  obtain ⟨n, hn, hle, hmicros⟩ : ∃ n : ℕ, n ≤ 86401000000 ∧
      (86400000000 ≤ n → t.second.val = 60 ∨ t.date.dayNumber < postgresEpoch) ∧
      t.micros = t.date.dayNumber * 86400000000 + n := by
    rw [micros_eq, tdiv_eq, sinceEpoch]
    split
    · refine ⟨(t.secondOfDay * 1000000 + t.nano.val / 1000).toNat, ?_, ?_, ?_⟩ <;> omega
    · refine ⟨(t.secondOfDay * 1000000 + (t.nano.val + 999) / 1000).toNat, ?_, ?_, ?_⟩ <;> omega
  by_cases hday : n < 86400000000
  · refine ⟨ofParts t.date ⟨n / 1000000, by omega⟩ ⟨n % 1000000, by omega⟩, isWhole_ofParts, ?_⟩
    rw [micros_ofParts, hmicros]
    simp only
    omega
  · have hyear : t.date.year < lastYear := by
      rcases h with hsecond | hyear
      · refine year_lt_of_dayNumber_lt ((hle (by omega)).resolve_left (by omega))
      · exact hyear
    obtain ⟨next, hnext⟩ := t.date.exists_next? hyear
    refine ⟨ofParts next ⟨(n - 86400000000) / 1000000, by omega⟩
      ⟨(n - 86400000000) % 1000000, by omega⟩, isWhole_ofParts, ?_⟩
    rw [micros_ofParts, Date.dayNumber_next? hnext, hmicros]
    simp only
    omega

end FabricRegistry.Timestamp
