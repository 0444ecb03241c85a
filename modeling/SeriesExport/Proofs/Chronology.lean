import Mathlib.Tactic.IntervalCases
import SeriesExport.Calendar.Timestamp

/-!
# The order of moments

Moments are compared by `Moment.rank`, which counts days with `Date.dayNumber`. For dates that exist and times that a
clock shows this is the order in which they are written, year first and second last (`Moment.rank_lt_iff`): the days
of a month, of a year that begins with March and of all the years before are over when the next begins
(`dayOfYear_lt`, `daysBeforeYear_add_dayOfYear_le`). So two moments that are not the same are not at the same time.
-/

namespace SeriesExport

namespace Date

theorem isValid_iff {d : Date} : d.isValid = true ↔ firstYear ≤ d.year ∧ d.year ≤ lastYear ∧ 1 ≤ d.month ∧
    d.month ≤ 12 ∧ 1 ≤ d.day ∧ d.day ≤ daysInMonth d.year d.month := by
  simp [isValid, and_assoc]

theorem daysInMonth_le (year : Int) (month : Nat) : daysInMonth year month ≤ 31 := by
  unfold daysInMonth
  split
  · split <;> omega
  all_goals omega

/-- The earlier year, then the earlier month, then the earlier day. -/
def Before (a b : Date) : Prop :=
  a.year < b.year ∨ a.year = b.year ∧ (a.month < b.month ∨ a.month = b.month ∧ a.day < b.day)

/-- The year that begins with March and has the date. -/
def marchYear (d : Date) : Int := if d.month ≤ 2 then d.year - 1 else d.year

/-- The month of that year, March being 0. -/
def marchMonth (d : Date) : Nat := (d.month + 9) % 12

/-- The days before a year that begins with March. -/
def daysBeforeYear (year : Int) : Int := 365 * year + year / 4 - year / 100 + year / 400

/-- The days of that year up to the date, itself included. -/
def dayOfYear (d : Date) : Nat := daysBeforeMonth d.marchMonth + d.day

theorem dayNumber_eq (d : Date) : d.dayNumber = daysBeforeYear d.marchYear + d.dayOfYear - 1 - epochOffset := by
  simp only [dayNumber, daysBeforeYear, marchYear, dayOfYear, marchMonth]
  omega

/-- A year ends with February, which is a day longer if the year after has a leap day. -/
theorem daysBeforeYear_succ (year : Int) :
    daysBeforeYear (year + 1) = daysBeforeYear year + 337 + daysInMonth (year + 1) 2 := by
  simp only [daysBeforeYear, daysInMonth, isLeapYear, Bool.and_eq_true, Bool.or_eq_true, decide_eq_true_eq]
  split <;> omega

theorem daysBeforeYear_mono {y z : Int} (h : y ≤ z) : daysBeforeYear y ≤ daysBeforeYear z := by
  simp only [daysBeforeYear]
  omega

theorem daysBeforeMonth_mono {m n : Nat} (h : m ≤ n) : daysBeforeMonth m ≤ daysBeforeMonth n := by
  simp only [daysBeforeMonth]
  omega

/-- Every other month is over when the next one begins. -/
theorem daysBeforeMonth_succ (year : Int) {month : Nat} (hfirst : 1 ≤ month) (hlast : month ≤ 12) (hne : month ≠ 2) :
    daysBeforeMonth ((month + 9) % 12 + 1) = daysBeforeMonth ((month + 9) % 12) + daysInMonth year month := by
  interval_cases month <;> first | rfl | contradiction

/-- Within a year the months come one after the other. -/
theorem dayOfYear_lt {a b : Date} (ha : a.isValid) (hb : b.isValid) (h : a.marchMonth < b.marchMonth) :
    a.dayOfYear < b.dayOfYear := by
  obtain ⟨-, -, hfirst, hlast, -, hday⟩ := isValid_iff.mp ha
  obtain ⟨-, -, -, -, hpos, -⟩ := isValid_iff.mp hb
  have hne : a.month ≠ 2 := by
    intro hfeb
    simp only [marchMonth, hfeb] at h
    omega
  have hnext := daysBeforeMonth_succ a.year hfirst hlast hne
  have hmono : daysBeforeMonth (a.marchMonth + 1) ≤ daysBeforeMonth b.marchMonth := daysBeforeMonth_mono h
  simp only [dayOfYear, marchMonth] at *
  omega

/-- The days of a year are over when the next year begins; February, the last month, needs its leap day. -/
theorem daysBeforeYear_add_dayOfYear_le {d : Date} (hd : d.isValid) :
    daysBeforeYear d.marchYear + d.dayOfYear ≤ daysBeforeYear (d.marchYear + 1) := by
  obtain ⟨-, -, hfirst, hlast, -, hday⟩ := isValid_iff.mp hd
  have hyear := daysBeforeYear_succ d.marchYear
  have hfebruary : 28 ≤ daysInMonth (d.marchYear + 1) 2 := by
    simp only [daysInMonth]
    split <;> omega
  by_cases hfeb : d.month = 2
  · have hnext : d.marchYear + 1 = d.year := by
      simp only [marchYear, hfeb]
      omega
    have hbefore : d.dayOfYear = 337 + d.day := by
      simp only [dayOfYear, marchMonth, hfeb, daysBeforeMonth]
    rw [hfeb, ← hnext] at hday
    omega
  · have hnext := daysBeforeMonth_succ d.year hfirst hlast hfeb
    have hmonth : (d.month + 9) % 12 + 1 ≤ 11 := by omega
    have hmono := daysBeforeMonth_mono hmonth
    have heleven : daysBeforeMonth 11 = 337 := rfl
    simp only [dayOfYear, marchMonth]
    omega

theorem dayNumber_lt_of_before {a b : Date} (ha : a.isValid) (hb : b.isValid) (h : a.Before b) :
    a.dayNumber < b.dayNumber := by
  obtain ⟨-, -, hfirst, hlast, -, -⟩ := isValid_iff.mp ha
  obtain ⟨-, -, hfirst', hlast', hpos, -⟩ := isValid_iff.mp hb
  rw [dayNumber_eq, dayNumber_eq]
  have hyears : a.marchYear < b.marchYear ∨ a.marchYear = b.marchYear ∧
      (a.marchMonth < b.marchMonth ∨ a.marchMonth = b.marchMonth ∧ a.day < b.day) := by
    simp only [Before, marchYear, marchMonth] at *
    omega
  rcases hyears with hyear | ⟨hyear, hmonth | ⟨hmonth, hday⟩⟩
  · have hle := daysBeforeYear_add_dayOfYear_le ha
    have hmono : daysBeforeYear (a.marchYear + 1) ≤ daysBeforeYear b.marchYear := daysBeforeYear_mono hyear
    have : 1 ≤ b.dayOfYear := by
      simp only [dayOfYear]
      omega
    omega
  · have := dayOfYear_lt ha hb hmonth
    rw [hyear]
    omega
  · rw [hyear]
    simp only [dayOfYear, hmonth]
    omega

/-- Two dates that are not the same are one before the other. -/
theorem before_or_before {a b : Date} (h : a ≠ b) : a.Before b ∨ b.Before a := by
  obtain ⟨year, month, day⟩ := a
  obtain ⟨year', month', day'⟩ := b
  simp only [Before, ne_eq, Date.mk.injEq] at *
  omega

end Date

namespace Moment

/-- The day exists and a clock shows the time; second 60 is a leap second. -/
structure Valid (m : Moment) : Prop where
  date : m.date.isValid = true
  hour : m.hour ≤ 23
  minute : m.minute ≤ 59
  second : m.second ≤ 60

/-- The earlier day, and on the same day the earlier time. -/
def Before (a b : Moment) : Prop :=
  a.date.Before b.date ∨ a.date = b.date ∧ (a.hour < b.hour ∨ a.hour = b.hour ∧
    (a.minute < b.minute ∨ a.minute = b.minute ∧ a.second < b.second))

theorem rank_lt_of_before {a b : Moment} (ha : a.Valid) (hb : b.Valid) (h : a.Before b) : a.rank < b.rank := by
  obtain ⟨hdate, hhour, hminute, hsecond⟩ := ha
  obtain ⟨hdate', hhour', hminute', hsecond'⟩ := hb
  simp only [rank]
  rcases h with hday | ⟨hday, hclock⟩
  · have := Date.dayNumber_lt_of_before hdate hdate' hday
    omega
  · rw [hday]
    omega

theorem before_or_before {a b : Moment} (h : a ≠ b) : a.Before b ∨ b.Before a := by
  by_cases hdate : a.date = b.date
  · obtain ⟨date, hour, minute, second⟩ := a
    obtain ⟨date', hour', minute', second'⟩ := b
    obtain rfl : date = date' := hdate
    simp only [Before, ne_eq, Moment.mk.injEq, true_and] at *
    omega
  · rcases Date.before_or_before hdate with hbefore | hbefore
    · exact .inl (.inl hbefore)
    · exact .inr (.inl hbefore)

/-- Ranks put moments in the order in which they are written. -/
theorem rank_lt_iff {a b : Moment} (ha : a.Valid) (hb : b.Valid) : a.rank < b.rank ↔ a.Before b := by
  refine ⟨fun h => ?_, rank_lt_of_before ha hb⟩
  by_contra hnot
  by_cases heq : a = b
  · subst heq
    omega
  · have := rank_lt_of_before hb ha ((before_or_before heq).resolve_left hnot)
    omega

end Moment
end SeriesExport
