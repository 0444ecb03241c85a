import SeriesExport.Proofs.Lexing
import SeriesExport.Proofs.Rounding
import SeriesExport.Proofs.Years
import SeriesExport.Table.Projection

/-!
# Instants

`Instant.read?` reads an RFC 3339 text such as `2021-01-01T00:00:00.250Z`. Every number has all its digits, a year has a
sign if and only if it is not between 0 and 9999, and the day and the time of day must exist. Days are counted with
`Date.sinceEpoch`, so nothing here goes back to how a timestamp is written.

What is written for a count of milliseconds is read as that count (`read?_of_timestamp?`), and it is written for the
counts of the calendar only (`isSome_timestamp?_iff`). Seconds become milliseconds without rounding as long as they are
in the calendar, and never come back into it otherwise (`isoTime_of_inCalendar`, `isoTime_of_not_inCalendar`).
-/

namespace SeriesExport

/-- Seconds since 1970-01-01, and the milliseconds after them. -/
structure Instant where
  seconds : Int
  millisecond : Nat
  deriving DecidableEq, Repr

namespace Instant

open Text (value padded digits)

/-- A number of so many digits, and what follows. -/
def fixed? (width : Nat) (cs : List Char) : Option (Nat × List Char) :=
  if (cs.take width).length = width ∧ (cs.take width).all Char.isDigit then
    some (value (cs.take width), cs.drop width)
  else none

/-- What follows the mark. -/
def mark? (c : Char) : List Char → Option (List Char)
  | d :: rest => if d = c then some rest else none
  | [] => none

/-- The year after a sign: four digits or more, and none that goes without a sign. -/
def signedYear? (sign : Int) (cs : List Char) : Option (Int × List Char) :=
  let ds := cs.takeWhile Char.isDigit
  let year := sign * value ds
  if 4 ≤ ds.length ∧ ¬(0 ≤ year ∧ year ≤ 9999) then some (year, cs.drop ds.length) else none

def year? : List Char → Option (Int × List Char)
  | '+' :: cs => signedYear? 1 cs
  | '-' :: cs => signedYear? (-1) cs
  | cs => (fixed? 4 cs).map fun (year, rest) => ((year : Int), rest)

/-- The seconds of a day. -/
def secondsOfDay : Int := 86400

def date? (cs : List Char) : Option (Date × List Char) := do
  let (year, cs) ← year? cs
  let cs ← mark? '-' cs
  let (month, cs) ← fixed? 2 cs
  let cs ← mark? '-' cs
  let (day, cs) ← fixed? 2 cs
  let date : Date := ⟨year, month, day⟩
  if date.IsDay then some (date, cs) else none

/-- The seconds from midnight to the time of day. -/
def clock? (cs : List Char) : Option (Nat × List Char) := do
  let (hour, cs) ← fixed? 2 cs
  let cs ← mark? ':' cs
  let (minute, cs) ← fixed? 2 cs
  let cs ← mark? ':' cs
  let (second, cs) ← fixed? 2 cs
  if hour ≤ 23 ∧ minute ≤ 59 ∧ second ≤ 59 then some (hour * 3600 + minute * 60 + second, cs) else none

def ofChars? (cs : List Char) : Option Instant := do
  let (date, cs) ← date? cs
  let cs ← mark? 'T' cs
  let (second, cs) ← clock? cs
  let cs ← mark? '.' cs
  let (millisecond, cs) ← fixed? 3 cs
  let cs ← mark? 'Z' cs
  if cs = [] then some ⟨date.sinceEpoch * secondsOfDay + second, millisecond⟩ else none

def read? (text : String) : Option Instant := ofChars? text.toList

example : read? "1972-03-01T00:00:01.250Z" = some ⟨68256001, 250⟩ ∧
    read? "1969-12-31T23:59:59.999Z" = some ⟨-1, 999⟩ ∧ read? "2021-02-29T00:00:00.000Z" = none ∧
    read? "+2021-01-01T00:00:00.000Z" = none := by decide +kernel

/-! ## Reading the parts -/

theorem isDigit_of_mem_padded {width n : Nat} {c : Char} (h : c ∈ padded width n) : c.isDigit = true := by
  rcases List.mem_append.mp h with hzero | hdigit
  · rw [List.eq_of_mem_replicate hzero]
    rfl
  · exact Text.isDigit_of_mem_digits hdigit

theorem le_length_padded (width n : Nat) : width ≤ (padded width n).length := by
  simp only [padded, List.length_append, List.length_replicate]
  omega

theorem length_padded {width n : Nat} (hpos : 0 < width) (h : n < 10 ^ width) : (padded width n).length = width := by
  have hle : (digits n).length ≤ width := (Nat.length_toDigits_le_iff (by decide) hpos).mpr h
  simp only [padded, List.length_append, List.length_replicate]
  omega

theorem fixed?_padded {width n : Nat} (hpos : 0 < width) (h : n < 10 ^ width) (rest : List Char) :
    fixed? width (padded width n ++ rest) = some (n, rest) := by
  have hlength := length_padded hpos h
  have hdigits : (padded width n).all Char.isDigit = true := List.all_eq_true.mpr fun c => isDigit_of_mem_padded
  rw [fixed?, List.take_left' hlength, List.drop_left' hlength, if_pos ⟨hlength, hdigits⟩, Text.value_padded]

theorem mark?_cons (c : Char) (rest : List Char) : mark? c (c :: rest) = some rest := if_pos rfl

theorem signedYear?_padded {sign : Int} {n : Nat} (hsign : ¬(0 ≤ sign * n ∧ sign * n ≤ 9999)) (rest : List Char) :
    signedYear? sign (padded 4 n ++ '-' :: rest) = some (sign * n, '-' :: rest) := by
  have htake : (padded 4 n ++ '-' :: rest).takeWhile Char.isDigit = padded 4 n :=
    Json.takeWhile_isDigit_append (fun c => isDigit_of_mem_padded) fun c hc => by
      obtain rfl := Option.some.inj hc
      rfl
  simp only [signedYear?, htake, Text.value_padded, List.drop_left]
  rw [if_pos ⟨le_length_padded 4 n, hsign⟩]

theorem isDigit_of_padded_append_eq_cons {width n : Nat} {rest cs : List Char} {c : Char} (hpos : 0 < width)
    (h : padded width n ++ rest = c :: cs) : c.isDigit = true := by
  obtain ⟨d, ds, hds⟩ := List.exists_cons_of_length_pos (hpos.trans_le (le_length_padded width n))
  rw [hds, List.cons_append] at h
  obtain ⟨rfl, -⟩ := List.cons.inj h
  exact isDigit_of_mem_padded (hds ▸ List.mem_cons_self)

theorem year?_yearText (year : Int) (rest : List Char) :
    year? (Date.yearText year ++ '-' :: rest) = some (year, '-' :: rest) := by
  unfold Date.yearText
  split
  · next hplain =>
    have hfixed : fixed? 4 (padded 4 year.natAbs ++ '-' :: rest) = some (year.natAbs, '-' :: rest) :=
      fixed?_padded (by decide) (by omega) _
    have hyear : (year.natAbs : Int) = year := by omega
    unfold year?
    split
    · next heq => cases isDigit_of_padded_append_eq_cons (by decide) heq
    · next heq => cases isDigit_of_padded_append_eq_cons (by decide) heq
    · rw [hfixed, Option.map_some]
      exact congrArg (fun y => some (y, '-' :: rest)) hyear
  · next hsigned =>
    split
    · have hyear : -1 * (year.natAbs : Int) = year := by omega
      have hread := @signedYear?_padded (-1) year.natAbs (by omega) rest
      rwa [hyear] at hread
    · have hyear : 1 * (year.natAbs : Int) = year := by omega
      have hread := @signedYear?_padded 1 year.natAbs (by omega) rest
      rwa [hyear] at hread

theorem date?_text {d : Date} (h : d.IsDay) (rest : List Char) : date? (d.text ++ rest) = some (d, rest) := by
  obtain ⟨year, month, day⟩ := d
  have hmonth : month ≤ 12 := h.month_le
  have hday : day ≤ 31 := h.day_le.trans (Date.daysInMonth_le _ _)
  have hreadMonth := @fixed?_padded 2 month (by decide) (by omega)
  have hreadDay := @fixed?_padded 2 day (by decide) (by omega)
  simp [date?, Date.text, year?_yearText, mark?_cons, hreadMonth, hreadDay, h]

theorem clock?_append {hour minute second : Nat} (hhour : hour ≤ 23) (hminute : minute ≤ 59) (hsecond : second ≤ 59)
    (rest : List Char) : clock? (padded 2 hour ++ ':' :: (padded 2 minute ++ ':' :: (padded 2 second ++ rest))) =
      some (hour * 3600 + minute * 60 + second, rest) := by
  have hreadHour := @fixed?_padded 2 hour (by decide) (by omega)
  have hreadMinute := @fixed?_padded 2 minute (by decide) (by omega)
  have hreadSecond := @fixed?_padded 2 second (by decide) (by omega)
  simp [clock?, mark?_cons, hreadHour, hreadMinute, hreadSecond, hhour, hminute, hsecond]

/-! ## Timestamps -/

/-- A timestamp is read as the milliseconds that it was written for. -/
theorem read?_of_timestamp? {milliseconds : Int} {text : String} (h : timestamp? milliseconds = some text) :
    read? text = some ⟨milliseconds / 1000, (milliseconds % 1000).toNat⟩ := by
  simp only [timestamp?] at h
  split at h
  case isFalse => cases h
  obtain rfl := Option.some.inj h
  have hday := Date.isDay_ofDayNumber (milliseconds / dayLength)
  have hcount := Date.sinceEpoch_ofDayNumber (milliseconds / dayLength)
  generalize Date.ofDayNumber (milliseconds / dayLength) = date at *
  generalize hrest : (milliseconds % dayLength).toNat = rest
  simp only [dayLength] at hcount hrest
  have hclock := @clock?_append (rest / 3600000) (rest / 60000 % 60) (rest / 1000 % 60) (by omega) (by omega) (by omega)
  have hreadMillisecond := @fixed?_padded 3 (rest % 1000) (by decide) (by omega)
  have hseconds : date.sinceEpoch * secondsOfDay +
      (rest / 3600000 * 3600 + rest / 60000 % 60 * 60 + rest / 1000 % 60 : Nat) = milliseconds / 1000 := by
    simp only [secondsOfDay]
    omega
  have hmillisecond : rest % 1000 = (milliseconds % 1000).toNat := by omega
  simp only [read?, ofChars?, String.toList_ofList, List.append_assoc, List.cons_append, date?_text hday, mark?_cons,
    hclock, hreadMillisecond, Option.bind_eq_bind, Option.bind_some, if_true]
  rw [hseconds, hmillisecond]

/-! ## The calendar -/

/-- The second is in one of the years that dates are given for. -/
def InCalendar (s : Int) : Prop :=
  (Date.newYear Date.firstYear).sinceEpoch * secondsOfDay ≤ s ∧
    s < (Date.newYear (Date.lastYear + 1)).sinceEpoch * secondsOfDay

theorem inCalendar_iff {s : Int} : InCalendar s ↔ -8334601228800 ≤ s ∧ s < 8210266876800 := by
  have hfirst : (Date.newYear Date.firstYear).sinceEpoch = -96465292 := by
    rw [Date.sinceEpoch_newYear]
    decide
  have hlast : (Date.newYear (Date.lastYear + 1)).sinceEpoch = 95026237 := by
    rw [Date.sinceEpoch_newYear]
    decide
  rw [InCalendar, hfirst, hlast, secondsOfDay]
  omega

instance : DecidablePred InCalendar := fun _ => decidable_of_iff _ inCalendar_iff.symm

theorem isSome_timestamp?_iff {milliseconds : Int} :
    (timestamp? milliseconds).isSome ↔ InCalendar (milliseconds / 1000) := by
  have hvalid : (timestamp? milliseconds).isSome ↔ (Date.ofDayNumber (milliseconds / dayLength)).isValid = true := by
    simp only [timestamp?]
    split <;> simp_all
  rw [hvalid, Date.isValid_ofDayNumber_iff, InCalendar, dayLength, secondsOfDay]
  generalize (Date.newYear Date.firstYear).sinceEpoch = first
  generalize (Date.newYear (Date.lastYear + 1)).sinceEpoch = last
  omega

section

variable {n : Json.Number} {s : Int}

/-- The second of a number is written, and read as the number. -/
theorem isoTime_of_inCalendar (hn : n.Represents s) (h : InCalendar s) :
    ∃ text, isoTime (.number n) = .string text ∧ read? text = some ⟨s, 0⟩ := by
  obtain ⟨hfirst, hlast⟩ := inCalendar_iff.mp h
  have hbits : (1000 * s).natAbs < 2 ^ 53 := by omega
  have hmilliseconds := milliseconds_of_represents hn hbits
  have hseconds : 1000 * s / 1000 = s := by omega
  have hsome : (timestamp? (1000 * s)).isSome := by rwa [isSome_timestamp?_iff, hseconds]
  obtain ⟨text, htext⟩ := Option.isSome_iff_exists.mp hsome
  refine ⟨text, ?_, ?_⟩
  · simp only [isoTime, hmilliseconds, htext, Option.map_some, Option.getD_some]
  · have hmillisecond : (1000 * s % 1000).toNat = 0 := by omega
    rw [read?_of_timestamp? htext, hseconds, hmillisecond]

/-- A number that is no second of the calendar stays as it is. -/
theorem isoTime_of_not_inCalendar (hn : n.Represents s) (h : ¬InCalendar s) : isoTime (.number n) = .number n := by
  have hstays : ∀ milliseconds, (n.toBinary64.mul (.ofNat 1000)).truncate? = some milliseconds →
      timestamp? milliseconds = none := by
    intro milliseconds hmilliseconds
    rw [← Option.not_isSome_iff_eq_none, isSome_timestamp?_iff]
    by_cases hexact : (1000 * s).natAbs < 2 ^ 53
    · rw [milliseconds_of_represents hn hexact] at hmilliseconds
      obtain rfl := Option.some.inj hmilliseconds
      rwa [Int.mul_ediv_cancel_left s (by decide)]
    · -- rounding does not bring it back into the calendar
      have hlarge := le_natAbs_milliseconds hn (not_lt.mp hexact) hmilliseconds
      rw [inCalendar_iff]
      omega
  simp only [isoTime]
  split
  · next milliseconds hmilliseconds => rw [hstays milliseconds hmilliseconds, Option.map_none, Option.getD_none]
  · rfl

/-- ISO 8601 texts of integers are exact. Seconds of the calendar are written as the instant that they are, different
ones differently, and all other integers stay numbers. -/
theorem isoTime_exact (hn : n.Represents s) :
    (InCalendar s → ∃ text, isoTime (.number n) = .string text ∧ read? text = some ⟨s, 0⟩) ∧
      (¬InCalendar s → isoTime (.number n) = .number n) ∧
      ∀ {n' s'}, Json.Number.Represents n' s' → InCalendar s → InCalendar s' →
        isoTime (.number n) = isoTime (.number n') → s = s' := by
  refine ⟨isoTime_of_inCalendar hn, isoTime_of_not_inCalendar hn, fun hn' h h' heq => ?_⟩
  obtain ⟨text, htext, hread⟩ := isoTime_of_inCalendar hn h
  obtain ⟨text', htext', hread'⟩ := isoTime_of_inCalendar hn' h'
  rw [htext, htext'] at heq
  obtain rfl := Json.string.inj heq
  rw [hread] at hread'
  exact congrArg seconds (Option.some.inj hread')

end

/-- The last second of the calendar, and the one after it. -/
theorem isoTime_exact_at_the_end :
    (∃ text, isoTime (.number (.integer 8210266876799)) = .string text ∧ read? text = some ⟨8210266876799, 0⟩) ∧
      isoTime (.number (.integer 8210266876800)) = .number (.integer 8210266876800) :=
  ⟨(isoTime_exact (n := .integer 8210266876799) rfl).1 (by decide),
    (isoTime_exact (n := .integer 8210266876800) rfl).2.1 (by decide)⟩

end Instant
end SeriesExport
