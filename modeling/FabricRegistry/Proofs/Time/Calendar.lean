import FabricRegistry.Calendar
import Mathlib.Data.Int.Notation
import Mathlib.Tactic.IntervalCases

/-!
Days and their numbers. A year counts from March, so that its months begin on days that do not
depend on the leap day; 400 years have 146097 days. A day is the day of its number, and the next
day has the next number.
-/

namespace FabricRegistry

theorem isLeapYear_iff (y : ℤ) :
    isLeapYear y = true ↔ y % 4 = 0 ∧ (y % 100 ≠ 0 ∨ y % 400 = 0) := by
  simp [isLeapYear]

theorem daysInMonth_eq (year : ℤ) {month : ℕ} (h1 : 1 ≤ month) (h12 : month ≤ 12) :
    daysInMonth year month =
      if month = 2 then if isLeapYear year then 29 else 28
      else if month ∈ [4, 6, 9, 11] then 30 else 31 := by
  interval_cases month <;> rfl

namespace Date

/-- the months since March -/
def monthsSinceMarch (d : Date) : ℤ := ((d.month : ℤ) + 9) % 12

/-- the days since the first of March -/
def daysSinceMarch (d : Date) : ℤ := (d.monthsSinceMarch * 153 + 2) / 5 + d.day - 1

theorem month_mem (d : Date) : 1 ≤ d.month ∧ d.month ≤ 12 := by
  by_contra hm
  have hzero : daysInMonth d.year d.month = 0 := by
    unfold daysInMonth
    split <;> omega
  have := d.day_mem
  omega

theorem day_le (d : Date) : d.day ≤ 31 := by
  obtain ⟨h1, h12⟩ := d.month_mem
  have hday := d.day_mem.2
  rw [daysInMonth_eq d.year h1 h12] at hday
  grind

/-- The days since March tell the month, and only a leap day is the last of 366. -/
theorem daysSinceMarch_mem (d : Date) :
    0 ≤ d.daysSinceMarch ∧ d.daysSinceMarch ≤ 365 ∧
      (5 * d.daysSinceMarch + 2) / 153 = d.monthsSinceMarch ∧
      (d.daysSinceMarch = 365 → d.month = 2 ∧ isLeapYear d.year = true) := by
  obtain ⟨h1, h12⟩ := d.month_mem
  have hday := d.day_mem
  rw [daysInMonth_eq d.year h1 h12] at hday
  unfold daysSinceMarch monthsSinceMarch
  generalize d.month = month at *
  cases hleap : isLeapYear d.year <;> rw [hleap] at hday <;> interval_cases month <;>
    simp at hday ⊢ <;> omega

/-- the year that the last March began in -/
def marchYear (d : Date) : ℤ := if d.month ≤ 2 then d.year - 1 else d.year

theorem dayNumber_eq (d : Date) : d.dayNumber =
    d.marchYear * 365 + d.marchYear / 4 - d.marchYear / 100 + d.marchYear / 400 +
      d.daysSinceMarch - 719468 := by
  unfold dayNumber marchYear daysSinceMarch monthsSinceMarch
  dsimp only
  omega

theorem of?_self (d : Date) : of? d.year d.month d.day = some d :=
  dif_pos ⟨d.year_mem, d.day_mem⟩

/-- a day within 400 years: in a century, in four years of it, and in a year of these -/
structure InEra (century quad year days : ℤ) : Prop where
  century_mem : 0 ≤ century ∧ century ≤ 3
  quad_mem : 0 ≤ quad ∧ quad ≤ 24
  year_mem : 0 ≤ year ∧ year ≤ 3
  days_mem : 0 ≤ days ∧ days ≤ 365
  /-- only a leap year has 366 days -/
  leap : days = 365 → year = 3 ∧ (quad = 24 → century = 3)

section InEra

variable {century quad year days era n : ℤ}

/-- The days without the leap days tell the year. -/
theorem InEra.year_eq (h : InEra century quad year days)
    (hn : n = 36524 * century + 1461 * quad + 365 * year + days) :
    (n - n / 1460 + n / 36524 - n / 146096) / 365 = 100 * century + 4 * quad + year := by
  obtain ⟨hk, hq, hs, hd, hleap⟩ := h
  by_cases hlast : n = 146096
  · omega
  have hcentury : n / 36524 = century := by omega
  have hera : n / 146096 = 0 := by omega
  by_cases hlong : 24 * century + quad + 365 * year + days < 1460
  · have hquad : n / 1460 = 25 * century + quad := by omega
    omega
  · have hquad : n / 1460 = 25 * century + quad + 1 := by omega
    omega

/-- What is made of the number of a day. -/
theorem InEra.ofDayNumber?_eq (h : InEra century quad year days)
    (hn : n = 146097 * era + (36524 * century + 1461 * quad + 365 * year + days) - 719468) :
    ofDayNumber? n =
      let month := (5 * days + 2) / 153
      let day := days - (153 * month + 2) / 5 + 1
      let y := 100 * century + 4 * quad + year + era * 400
      if month < 10 then of? y (month + 3).toNat day.toNat
      else of? (y + 1) (month - 9).toNat day.toNat := by
  obtain ⟨hk, hq, hs, hd, -⟩ := id h
  have hera : (n + 719468) / 146097 = era := by omega
  have hrest : (n + 719468) % 146097 = 36524 * century + 1461 * quad + 365 * year + days := by omega
  have hquads : (100 * century + 4 * quad + year) / 4 = 25 * century + quad := by omega
  have hcenturies : (100 * century + 4 * quad + year) / 100 = century := by omega
  have hdays : 36524 * century + 1461 * quad + 365 * year + days -
      (365 * (100 * century + 4 * quad + year) + (100 * century + 4 * quad + year) / 4 -
        (100 * century + 4 * quad + year) / 100) = days := by
    rw [hquads, hcenturies]
    omega
  unfold ofDayNumber?
  dsimp only
  rw [hera, hrest, h.year_eq rfl, hdays]

end InEra

/-- The place of a day in its 400 years. -/
theorem inEra (d : Date) : InEra (d.marchYear % 400 / 100) (d.marchYear % 100 / 4)
    (d.marchYear % 4) d.daysSinceMarch := by
  obtain ⟨hmin, hmax, -, hleap⟩ := d.daysSinceMarch_mem
  refine ⟨by omega, by omega, by omega, ⟨hmin, hmax⟩, fun h => ?_⟩
  obtain ⟨hfebruary, hleapYear⟩ := hleap h
  have hyear : d.marchYear = d.year - 1 := if_pos (by omega)
  rw [isLeapYear_iff] at hleapYear
  omega

/-- **A day is the day of its number.** -/
theorem ofDayNumber?_dayNumber (d : Date) : ofDayNumber? d.dayNumber = some d := by
  have hnumber : d.dayNumber = 146097 * (d.marchYear / 400) +
      (36524 * (d.marchYear % 400 / 100) + 1461 * (d.marchYear % 100 / 4) +
        365 * (d.marchYear % 4) + d.daysSinceMarch) - 719468 := by
    rw [dayNumber_eq]
    omega
  have hyear : 100 * (d.marchYear % 400 / 100) + 4 * (d.marchYear % 100 / 4) + d.marchYear % 4 +
      d.marchYear / 400 * 400 = d.marchYear := by omega
  rw [d.inEra.ofDayNumber?_eq hnumber, d.daysSinceMarch_mem.2.2.1, hyear]
  dsimp only
  obtain ⟨h1, h12⟩ := d.month_mem
  have hday : (d.daysSinceMarch - (153 * d.monthsSinceMarch + 2) / 5 + 1).toNat = d.day := by
    rw [daysSinceMarch, Int.mul_comm]
    omega
  rw [hday]
  have hmonths : d.monthsSinceMarch = ((d.month : ℤ) + 9) % 12 := rfl
  split
  · have hm : (d.monthsSinceMarch + 3).toNat = d.month := by omega
    have hy : d.marchYear = d.year := if_neg (by omega)
    rw [hy, hm, of?_self]
  · have hm : (d.monthsSinceMarch - 9).toNat = d.month := by omega
    have hy : d.marchYear + 1 = d.year := by
      rw [marchYear, if_pos (by omega)]
      omega
    rw [hy, hm, of?_self]

theorem of?_eq_some_iff {year : ℤ} {month day : ℕ} {d : Date} : of? year month day = some d ↔
    d.year = year ∧ d.month = month ∧ d.day = day := by
  constructor
  · intro h
    unfold of? at h
    split at h
    · cases h
      exact ⟨rfl, rfl, rfl⟩
    · cases h
  · rintro ⟨rfl, rfl, rfl⟩
    exact d.of?_self

/-- The first of a month, in days since March, is as far from the first of the next as the month is
long. -/
theorem firstOfMonth_succ {month : ℕ} (h1 : 1 ≤ month) (h12 : month < 12) (h2 : month ≠ 2) :
    ((((month + 1 : ℕ) : ℤ) + 9) % 12 * 153 + 2) / 5 =
      (((month : ℤ) + 9) % 12 * 153 + 2) / 5 + if month ∈ [4, 6, 9, 11] then 30 else 31 := by
  interval_cases month <;> first | rfl | exact absurd rfl h2

/-- The day after a day has the next number. -/
theorem dayNumber_next? {d e : Date} (h : d.next? = some e) : e.dayNumber = d.dayNumber + 1 := by
  obtain ⟨h1, h12⟩ := d.month_mem
  have hd := d.day_mem
  unfold next? at h
  split at h
  · obtain ⟨hy, hm, hday⟩ := of?_eq_some_iff.mp h
    simp only [dayNumber, hy, hm, hday]
    omega
  · next hlast =>
    have hend : d.day = daysInMonth d.year d.month := by omega
    rw [daysInMonth_eq d.year h1 h12] at hend
    split at h
    · obtain ⟨hy, hm, hday⟩ := of?_eq_some_iff.mp h
      simp only [dayNumber, hy, hm, hday]
      by_cases hfebruary : d.month = 2
      · rw [hfebruary] at hend ⊢
        cases hleap : isLeapYear d.year with
        | true =>
          rw [hleap] at hend
          rw [isLeapYear_iff] at hleap
          simp at hend
          simp [hend]
          omega
        | false =>
          rw [hleap] at hend
          have := mt (isLeapYear_iff d.year).mpr (by simp [hleap])
          simp at hend
          simp [hend]
          omega
      · rw [if_neg hfebruary] at hend
        have hstep := firstOfMonth_succ h1 (by omega) hfebruary
        have hyear : (if d.month + 1 ≤ 2 then d.year - 1 else d.year) =
            if d.month ≤ 2 then d.year - 1 else d.year := by
          split <;> split <;> omega
        rw [hstep, hyear, hend]
        split <;> simp <;> omega
    · obtain ⟨hy, hm, hday⟩ := of?_eq_some_iff.mp h
      have hmonth : d.month = 12 := by omega
      simp [dayNumber, hy, hm, hday, hmonth] at hend ⊢
      omega

theorem exists_next? (d : Date) (h : d.year < lastYear) : ∃ e, d.next? = some e := by
  obtain ⟨h1, h12⟩ := d.month_mem
  have hfirst := d.year_mem.1
  unfold next?
  split
  · next hlt => exact ⟨_, dif_pos ⟨d.year_mem, by omega, hlt⟩⟩
  · split
    · next hlt =>
      have hday : 1 ≤ daysInMonth d.year (d.month + 1) := by
        rw [daysInMonth_eq d.year (by omega) hlt]
        split <;> split <;> omega
      exact ⟨_, dif_pos ⟨d.year_mem, le_refl 1, hday⟩⟩
    · have hyear : firstYear ≤ d.year + 1 ∧ d.year + 1 ≤ lastYear := by omega
      exact ⟨_, dif_pos ⟨hyear, le_refl 1, by simp [daysInMonth]⟩⟩

end Date

end FabricRegistry
