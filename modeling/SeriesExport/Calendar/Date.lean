import SeriesExport.Text.Digits

/-!
# Days of the calendar

The proleptic Gregorian calendar. `dayNumber` counts the days since 1970-01-01 and `ofDayNumber` finds the date of
such a count. Both take the year to begin in March, so that the day that comes and goes is the last one of a year;
`dayNumber_ofDayNumber` is exact for every integer.
-/

namespace SeriesExport

/-- A date of the proleptic Gregorian calendar; year 0 is the one before year 1. -/
structure Date where
  year : Int
  month : Nat
  day : Nat
  deriving DecidableEq, Repr

namespace Date

/-- The first and the last year that dates are given for. -/
def firstYear : Int := -262143

def lastYear : Int := 262142

def isLeapYear (year : Int) : Bool :=
  year % 4 = 0 && (year % 100 ≠ 0 || year % 400 = 0)

def daysInMonth (year : Int) : Nat → Nat
  | 2 => if isLeapYear year then 29 else 28
  | 4 | 6 | 9 | 11 => 30
  | _ => 31

/-- Whether there is such a day and its year is one that dates are given for. -/
def isValid (d : Date) : Bool :=
  firstYear ≤ d.year && d.year ≤ lastYear && 1 ≤ d.month && d.month ≤ 12 && 1 ≤ d.day &&
    d.day ≤ daysInMonth d.year d.month

/-! ## Counting days -/

/-- The days before month `m` of a year that begins with March, months counted from 0. -/
def daysBeforeMonth (m : Nat) : Nat := (153 * m + 2) / 5

/-- From the first of March of year 0 to 1970-01-01. -/
def epochOffset : Int := 719468

/-- The days from 1970-01-01 to the date. -/
def dayNumber (d : Date) : Int :=
  let year := if d.month ≤ 2 then d.year - 1 else d.year
  let month := (d.month + 9) % 12
  365 * year + year / 4 - year / 100 + year / 400 + daysBeforeMonth month + d.day - 1 - epochOffset

/-- The date in the year that begins with March of `year`, `days` after its first day. -/
def ofDayOfYear (year : Int) (days : Nat) : Date :=
  let m := (5 * days + 2) / 153
  let day := days - daysBeforeMonth m + 1
  if m < 10 then ⟨year, m + 3, day⟩ else ⟨year + 1, m - 9, day⟩

/-- The date so many days after 1970-01-01. Of 400 years the last century, and of 4 years the last year, is the one
that may be a day longer. -/
def ofDayNumber (n : Int) : Date :=
  let cycle := (n + epochOffset) / 146097
  let day := ((n + epochOffset) % 146097).toNat
  let century := min (day / 36524) 3
  let day := day - 36524 * century
  let leap := day / 1461
  let day := day % 1461
  let year := min (day / 365) 3
  ofDayOfYear (400 * cycle + 100 * century + 4 * leap + year) (day - 365 * year)

theorem dayNumber_ofDayOfYear (year : Int) {days : Nat} (h : days < 366) :
    (ofDayOfYear year days).dayNumber =
      365 * year + year / 4 - year / 100 + year / 400 + days - epochOffset := by
  simp only [ofDayOfYear]
  split
  · simp only [dayNumber, daysBeforeMonth]
    rw [if_neg (by omega), show ((5 * days + 2) / 153 + 3 + 9) % 12 = (5 * days + 2) / 153 by omega]
    omega
  · simp only [dayNumber, daysBeforeMonth]
    rw [if_pos (by omega), show ((5 * days + 2) / 153 - 9 + 9) % 12 = (5 * days + 2) / 153 by omega]
    omega

/-- The leap days up to a year, by the place of the year in its century and cycle. -/
theorem leapDays (cycle : Int) {century leap year : Nat} (hc : century ≤ 3) (hl : leap ≤ 24) (hy : year ≤ 3) :
    (400 * cycle + 100 * century + 4 * leap + year) / 4 = 100 * cycle + 25 * century + leap ∧
    (400 * cycle + 100 * century + 4 * leap + year) / 100 = 4 * cycle + century ∧
    (400 * cycle + 100 * century + 4 * leap + year) / 400 = cycle := by
  omega

/-- Every count of days is the count of its date. -/
theorem dayNumber_ofDayNumber (n : Int) : (ofDayNumber n).dayNumber = n := by
  simp only [ofDayNumber]
  have hn : n + epochOffset = 146097 * ((n + epochOffset) / 146097) + ((n + epochOffset) % 146097).toNat := by omega
  have hday : ((n + epochOffset) % 146097).toNat < 146097 := by omega
  generalize (n + epochOffset) / 146097 = cycle at *
  generalize ((n + epochOffset) % 146097).toNat = day at *
  have hc : min (day / 36524) 3 ≤ 3 ∧ day - 36524 * min (day / 36524) 3 ≤ 36524 ∧
      36524 * min (day / 36524) 3 ≤ day := by omega
  generalize min (day / 36524) 3 = century at *
  generalize hr : day - 36524 * century = rest at *
  have hy : min (rest % 1461 / 365) 3 ≤ 3 ∧ 365 * min (rest % 1461 / 365) 3 ≤ rest % 1461 ∧
      rest % 1461 - 365 * min (rest % 1461 / 365) 3 < 366 := by omega
  generalize min (rest % 1461 / 365) 3 = year at *
  obtain ⟨h4, h100, h400⟩ := @leapDays cycle century (rest / 1461) year
    (by omega) (by omega) (by omega)
  rw [dayNumber_ofDayOfYear _ hy.2.2, h4, h100, h400]
  omega

/-- Four digits, and a sign if the year is not between 0 and 9999. -/
def yearText (year : Int) : List Char :=
  if 0 ≤ year ∧ year ≤ 9999 then Text.padded 4 year.natAbs
  else (if year < 0 then '-' else '+') :: Text.padded 4 year.natAbs

/-- `2021-01-31` -/
def text (d : Date) : List Char :=
  yearText d.year ++ '-' :: Text.padded 2 d.month ++ '-' :: Text.padded 2 d.day

example : (⟨1970, 1, 1⟩ : Date).dayNumber = 0 ∧ (⟨2021, 1, 1⟩ : Date).dayNumber = 18628 ∧
    ofDayNumber 11016 = ⟨2000, 2, 29⟩ ∧ ofDayNumber (-719529) = ⟨-1, 12, 31⟩ := by decide

end Date

end SeriesExport
