import SeriesExport.Calendar.Date

/-!
# Points in time

A `Moment` is a day and the time of day that a clock shows; a leap second shows as 60. `rank` puts moments in order:
second 60 comes after second 59 and before the next minute. A timestamp is the ISO 8601 text of a count of
milliseconds since 1970-01-01.
-/

namespace SeriesExport

structure Moment where
  date : Date
  hour : Nat
  minute : Nat
  second : Nat
  deriving DecidableEq, Repr

namespace Moment

/-- Leaves room for second 60 in every minute. -/
def rank (m : Moment) : Int :=
  ((m.date.dayNumber * 24 + m.hour) * 60 + m.minute) * 61 + m.second

/-- `2021-01-31 10:20:30` -/
def text (m : Moment) : List Char :=
  m.date.text ++ ' ' :: Text.padded 2 m.hour ++ ':' :: Text.padded 2 m.minute ++ ':' :: Text.padded 2 m.second

end Moment

/-- The milliseconds of a day. -/
def dayLength : Int := 86400000

/-- `2021-01-31T10:20:30.456Z`, if the year is one that dates are given for. -/
def timestamp? (milliseconds : Int) : Option String :=
  let date := Date.ofDayNumber (milliseconds / dayLength)
  let rest := (milliseconds % dayLength).toNat
  if date.isValid then
    some (String.ofList (date.text ++ 'T' :: Text.padded 2 (rest / 3600000) ++ ':' ::
      Text.padded 2 (rest / 60000 % 60) ++ ':' :: Text.padded 2 (rest / 1000 % 60) ++ '.' ::
      Text.padded 3 (rest % 1000) ++ ['Z']))
  else none

example : timestamp? 1609459200250 = some "2021-01-01T00:00:00.250Z" ∧
    timestamp? (-62167219200001) = some "-0001-12-31T23:59:59.999Z" := by decide +kernel

end SeriesExport
