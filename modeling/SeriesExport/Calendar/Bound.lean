import SeriesExport.Calendar.Timestamp
import SeriesExport.Text.Blank

/-!
# Reading a moment

`Moment.ofChars?` reads texts of the form `2021-01-31T10:20:30`. Blanks may stand before each number, a number may have
fewer digits, and a year with a sign may have any number of them. The first thing that does not fit decides how the
text is refused; whether the day exists is asked last.
-/

namespace SeriesExport.Moment

open Text (dropBlanks value)

/-- Why a text is not a moment. -/
inductive Flaw where
  | invalid
  | tooShort
  | outOfRange
  | trailing
  deriving DecidableEq, Repr

def Flaw.message : Flaw → String
  | .invalid => "input contains invalid characters"
  | .tooShort => "premature end of input"
  | .outOfRange => "input is out of range"
  | .trailing => "trailing input"

/-- The largest number that a run of digits may denote: 63 bits. -/
def largest : Nat := 9223372036854775807

/-- The digits at the beginning, at most `most` of them if there is a limit, and what follows. -/
def number (most : Option Nat) (cs : List Char) : Except Flaw (Nat × List Char) :=
  let ds := (match most with
    | some n => cs.take n
    | none => cs).takeWhile Char.isDigit
  if cs = [] then .error .tooShort
  else if ds = [] then .error .invalid
  else if largest < value ds then .error .outOfRange
  else .ok (value ds, cs.drop ds.length)

def year (cs : List Char) : Except Flaw (Int × List Char) := do
  let (y, rest) ← match dropBlanks cs with
    | '-' :: cs => do
      let (n, rest) ← number none cs
      pure (-(n : Int), rest)
    | '+' :: cs => do
      let (n, rest) ← number none cs
      pure (n, rest)
    | cs => do
      let (n, rest) ← number (some 4) cs
      pure (n, rest)
  if -2147483648 ≤ y ∧ y ≤ 2147483647 then .ok (y, rest) else .error .outOfRange

/-- One or two digits for a number between `low` and `high`. -/
def field (low high : Nat) (cs : List Char) : Except Flaw (Nat × List Char) := do
  let (n, rest) ← number (some 2) (dropBlanks cs)
  if low ≤ n ∧ n ≤ high then .ok (n, rest) else .error .outOfRange

/-- What follows the given character. -/
def after (c : Char) : List Char → Except Flaw (List Char)
  | [] => .error .tooShort
  | d :: rest => if d = c then .ok rest else .error .invalid

def ofChars? (cs : List Char) : Except Flaw Moment := do
  let (year, cs) ← year cs
  let cs ← after '-' cs
  let (month, cs) ← field 1 12 cs
  let cs ← after '-' cs
  let (day, cs) ← field 1 31 cs
  let cs ← after 'T' cs
  let (hour, cs) ← field 0 23 cs
  let cs ← after ':' cs
  let (minute, cs) ← field 0 59 cs
  let cs ← after ':' cs
  let (second, cs) ← field 0 60 cs
  let date : Date := ⟨year, month, day⟩
  if cs ≠ [] then .error .trailing
  else if date.isValid then .ok ⟨date, hour, minute, second⟩
  else .error .outOfRange

end SeriesExport.Moment
