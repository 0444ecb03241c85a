import Mathlib.Order.Monotone.Basic
import Mathlib.Tactic.MkIffOfInductiveProp
import SeriesExport.Proofs.Chronology

/-!
# Days counted by years and months

`Date.sinceEpoch` counts days as the calendar is written: all days of the years from 1970 on, of the months of the year
and of the month, or the other way back from 1970. This is the number of the day (`dayNumber_eq_sinceEpoch`).

Every count of days leads to a day that there is, and that has it (`isDay_ofDayNumber`, `sinceEpoch_ofDayNumber`). Of
two days the one in the earlier year has the smaller count, so the days that dates are given for are those from the
first of January of the first year up to the one after the last year (`isValid_ofDayNumber_iff`).
-/

namespace SeriesExport.Date

/-- The days of a year. -/
def yearLength (year : Int) : Nat := if isLeapYear year then 366 else 365

/-- The days of so many years, one after the other. -/
def daysOfYears (first : Int) (count : Nat) : Nat :=
  ((List.range count).map fun k : Nat => yearLength (first + k)).sum

/-- The days of the first months of a year. -/
def daysOfMonths (year : Int) (count : Nat) : Nat := ((List.range count).map fun k => daysInMonth year (k + 1)).sum

/-- The days from 1970-01-01 to the date. -/
def sinceEpoch (d : Date) : Int :=
  (if 1970 ≤ d.year then (daysOfYears 1970 (d.year - 1970).toNat : Int)
    else -daysOfYears d.year (1970 - d.year).toNat) + daysOfMonths d.year (d.month - 1) + d.day - 1

/-- The first of January of the year. -/
def newYear (year : Int) : Date := ⟨year, 1, 1⟩

/-- There is such a day, in whatever year. -/
@[mk_iff]
structure IsDay (d : Date) : Prop where
  month_pos : 1 ≤ d.month
  month_le : d.month ≤ 12
  day_pos : 1 ≤ d.day
  day_le : d.day ≤ daysInMonth d.year d.month

instance : DecidablePred IsDay := fun d => decidable_of_iff _ (isDay_iff d).symm

theorem isValid_iff_isDay {d : Date} : d.isValid = true ↔ d.IsDay ∧ firstYear ≤ d.year ∧ d.year ≤ lastYear := by
  rw [isValid_iff, isDay_iff]
  omega

/-! ## Years -/

theorem yearLength_eq (year : Int) : (yearLength year : Int) = daysBeforeYear year - daysBeforeYear (year - 1) := by
  have hsucc := daysBeforeYear_succ (year - 1)
  rw [Int.sub_add_cancel] at hsucc
  rw [hsucc, yearLength, daysInMonth]
  split <;> omega

theorem daysOfYears_eq (first : Int) (count : Nat) :
    (daysOfYears first count : Int) = daysBeforeYear (first + count - 1) - daysBeforeYear (first - 1) := by
  induction count with
  | zero => simp [daysOfYears]
  | succ count ih =>
    have hsum : daysOfYears first (count + 1) = daysOfYears first count + yearLength (first + count) := by
      simp [daysOfYears, List.range_succ]
    have hlast : first + ((count + 1 : Nat) : Int) - 1 = first + count := by omega
    rw [hsum, hlast]
    push_cast
    rw [ih, yearLength_eq]
    omega

theorem sinceEpoch_eq (d : Date) : d.sinceEpoch =
    daysBeforeYear (d.year - 1) - daysBeforeYear 1969 + daysOfMonths d.year (d.month - 1) + d.day - 1 := by
  rw [sinceEpoch]
  split
  · next h =>
    have hyear : (1970 : Int) + (d.year - 1970) - 1 = d.year - 1 := by omega
    have hfirst : (1970 : Int) - 1 = 1969 := rfl
    rw [daysOfYears_eq, Int.toNat_of_nonneg (by omega), hyear, hfirst]
  · next h =>
    rw [daysOfYears_eq, Int.toNat_of_nonneg (by omega)]
    have hback : d.year + (1970 - d.year) - 1 = 1969 := by omega
    rw [hback]
    omega

theorem sinceEpoch_newYear (year : Int) :
    (newYear year).sinceEpoch = daysBeforeYear (year - 1) - daysBeforeYear 1969 := by
  rw [sinceEpoch_eq]
  simp [newYear, daysOfMonths]

/-! ## Months -/

theorem daysOfMonths_succ (year : Int) (count : Nat) :
    daysOfMonths year (count + 1) = daysOfMonths year count + daysInMonth year (count + 1) := by
  simp [daysOfMonths, List.range_succ]

theorem daysOfMonths_mono (year : Int) : Monotone (daysOfMonths year) :=
  monotone_nat_of_le_succ fun count => by
    rw [daysOfMonths_succ]
    exact Nat.le_add_right _ _

/-- After February the months are as long as those of a year that begins with March. -/
theorem daysOfMonths_add_two (year : Int) {count : Nat} (h : count ≤ 10) :
    daysOfMonths year (count + 2) = 31 + daysInMonth year 2 + daysBeforeMonth count := by
  induction count with
  | zero =>
    rw [daysOfMonths_succ, daysOfMonths_succ]
    exact congrArg (· + daysInMonth year 2) (Nat.zero_add 31)
  | succ count ih =>
    have hmonth := @daysBeforeMonth_succ year (count + 3) (by omega) (by omega) (by omega)
    have hplace : (count + 3 + 9) % 12 = count := by omega
    have hsucc : daysOfMonths year (count + 1 + 2) = daysOfMonths year (count + 2) + daysInMonth year (count + 3) :=
      daysOfMonths_succ year (count + 2)
    rw [hplace] at hmonth
    rw [hsucc, ih (by omega), hmonth, Nat.add_assoc]

theorem daysOfMonths_twelve (year : Int) : daysOfMonths year 12 = yearLength year := by
  rw [daysOfMonths_add_two year (Nat.le_refl 10), yearLength, daysInMonth]
  split <;> rfl

/-- A day is not after the last one of its year. -/
theorem IsDay.dayOfYear_le {d : Date} (h : d.IsDay) :
    daysOfMonths d.year (d.month - 1) + d.day ≤ yearLength d.year := by
  obtain ⟨hpos, hle, -, hday⟩ := h
  have hmonth := daysOfMonths_succ d.year (d.month - 1)
  have hmono := daysOfMonths_mono d.year hle
  rw [Nat.sub_add_cancel hpos] at hmonth
  rw [daysOfMonths_twelve] at hmono
  omega

/-- The months before a month, counted from January or from the March before. -/
theorem daysBeforeMonth_marchMonth {d : Date} (hpos : 1 ≤ d.month) (hle : d.month ≤ 12) :
    daysBeforeYear d.marchYear + daysBeforeMonth d.marchMonth =
      daysBeforeYear (d.year - 1) + daysBeforeMonth 10 + daysOfMonths d.year (d.month - 1) := by
  obtain ⟨year, month, day⟩ := d
  simp only [marchYear, marchMonth] at hpos hle ⊢
  have hten : daysBeforeMonth 10 = 306 := rfl
  -- January and February end the year that began with the March before; the others come after February.
  obtain rfl | rfl | ⟨count, rfl⟩ : month = 1 ∨ month = 2 ∨ ∃ count, month = count + 3 := by
    by_cases hearly : month ≤ 2
    · omega
    · exact .inr (.inr ⟨month - 3, by omega⟩)
  · simp [daysOfMonths]
  · have heleven : daysBeforeMonth 11 = 337 := rfl
    have hjanuary : daysOfMonths year 1 = 31 := rfl
    show daysBeforeYear (year - 1) + (daysBeforeMonth 11 : Int) = _ + (daysOfMonths year 1 : Int)
    rw [hten, heleven, hjanuary]
    omega
  · have hyear := daysBeforeYear_succ (year - 1)
    have hmonths := @daysOfMonths_add_two year count (by omega)
    have hplace : (count + 3 + 9) % 12 = count := by omega
    have hlate : ¬count + 3 ≤ 2 := by omega
    have hbefore : count + 3 - 1 = count + 2 := rfl
    rw [Int.sub_add_cancel] at hyear
    rw [hplace, if_neg hlate, hyear, hbefore, hmonths, hten]
    push_cast
    omega

theorem dayNumber_eq_sinceEpoch {d : Date} (h : d.IsDay) : d.dayNumber = d.sinceEpoch := by
  have hmonths := daysBeforeMonth_marchMonth h.month_pos h.month_le
  have hepoch : daysBeforeYear 1969 = epochOffset - daysBeforeMonth 10 := by decide
  rw [dayNumber_eq, sinceEpoch_eq, hepoch]
  simp only [dayOfYear]
  push_cast
  omega

/-! ## Dates of counts -/

/-- The last day of a year that begins with March is there in leap years. -/
theorem isDay_ofDayOfYear (year : Int) {days : Nat} (h : days < 366) (hleap : days = 365 → isLeapYear (year + 1)) :
    (ofDayOfYear year days).IsDay := by
  have hlow : daysBeforeMonth ((5 * days + 2) / 153) ≤ days := by
    simp only [daysBeforeMonth]
    omega
  have hhigh : days < daysBeforeMonth ((5 * days + 2) / 153 + 1) := by
    simp only [daysBeforeMonth]
    omega
  have hlast : (5 * days + 2) / 153 ≤ 11 := by omega
  simp only [ofDayOfYear]
  generalize (5 * days + 2) / 153 = m at *
  split
  · have hmonth := @daysBeforeMonth_succ year (m + 3) (by omega) (by omega) (by omega)
    have hplace : (m + 3 + 9) % 12 = m := by omega
    rw [hplace] at hmonth
    constructor <;> dsimp only <;> omega
  · obtain rfl | rfl : m = 10 ∨ m = 11 := by omega
    · have hjanuary : days - daysBeforeMonth 10 + 1 ≤ 31 := by
        have hten : daysBeforeMonth 10 = 306 := rfl
        have heleven : daysBeforeMonth (10 + 1) = 337 := rfl
        omega
      exact ⟨(by decide : 1 ≤ 10 - 9), (by decide : 10 - 9 ≤ 12), Nat.succ_pos _, hjanuary⟩
    · -- the end of February is not seen from the months
      have hfebruary : days - daysBeforeMonth 11 + 1 ≤ if isLeapYear (year + 1) then 29 else 28 := by
        have heleven : daysBeforeMonth 11 = 337 := rfl
        split
        · omega
        · next hcommon =>
          have hne : days ≠ 365 := fun hdays => hcommon (hleap hdays)
          omega
      exact ⟨(by decide : 1 ≤ 11 - 9), (by decide : 11 - 9 ≤ 12), Nat.succ_pos _, hfebruary⟩

theorem isDay_ofDayNumber (n : Int) : (ofDayNumber n).IsDay := by
  have hday : ((n + epochOffset) % 146097).toNat < 146097 := by omega
  simp only [ofDayNumber]
  generalize (n + epochOffset) / 146097 = cycle
  generalize ((n + epochOffset) % 146097).toNat = day at *
  apply isDay_ofDayOfYear
  · omega
  · intro hdays
    have hyear : min ((day - 36524 * min (day / 36524) 3) % 1461 / 365) 3 = 3 := by omega
    rw [hyear] at hdays ⊢
    -- the last day of four years; if they are the last ones of a century, it is that of the cycle
    have hplace : (day - 36524 * min (day / 36524) 3) / 1461 < 24 ∨
        (day - 36524 * min (day / 36524) 3) / 1461 = 24 ∧ min (day / 36524) 3 = 3 := by omega
    simp only [isLeapYear, Bool.and_eq_true, Bool.or_eq_true, decide_eq_true_eq]
    rcases hplace with hleap | ⟨hleap, hcentury⟩
    · generalize min (day / 36524) 3 = century at *
      generalize (day - 36524 * century) / 1461 = leap at *
      omega
    · rw [hleap, hcentury]
      omega

/-- Every count of days is the count of its date. -/
theorem sinceEpoch_ofDayNumber (n : Int) : (ofDayNumber n).sinceEpoch = n := by
  rw [← dayNumber_eq_sinceEpoch (isDay_ofDayNumber n), dayNumber_ofDayNumber]

/-- The earlier years have the smaller counts. -/
theorem IsDay.sinceEpoch_lt_iff {d : Date} (h : d.IsDay) (year : Int) :
    d.sinceEpoch < (newYear year).sinceEpoch ↔ d.year < year := by
  have hlength := h.dayOfYear_le
  have hyear := yearLength_eq d.year
  have hpos := h.day_pos
  rw [sinceEpoch_newYear, sinceEpoch_eq]
  constructor
  · intro hlt
    by_contra hle
    have hmono := daysBeforeYear_mono (y := year - 1) (z := d.year - 1) (by omega)
    omega
  · intro hlt
    have hmono := daysBeforeYear_mono (y := d.year) (z := year - 1) (by omega)
    omega

theorem isValid_ofDayNumber_iff (n : Int) : (ofDayNumber n).isValid = true ↔
    (newYear firstYear).sinceEpoch ≤ n ∧ n < (newYear (lastYear + 1)).sinceEpoch := by
  have hday := isDay_ofDayNumber n
  have hfirst := hday.sinceEpoch_lt_iff firstYear
  have hlast := hday.sinceEpoch_lt_iff (lastYear + 1)
  rw [sinceEpoch_ofDayNumber] at hfirst hlast
  rw [isValid_iff_isDay]
  simp only [hday, true_and]
  omega

end SeriesExport.Date
