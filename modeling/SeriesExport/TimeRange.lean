import SeriesExport.Calendar.Bound

/-!
# Time ranges

A range is what the user enters for its two ends. A blank end is absent and is sent as an empty text. A present one is
checked (`Bound.ofText?`) and then sent as it was entered, with a `Z` at its end.
-/

namespace SeriesExport

/-- A present end of a range: the moment, and the text that is sent for it. -/
structure Bound where
  moment : Moment
  text : String
  deriving DecidableEq, Repr

/-- Both ends included; an absent one is not limited. -/
structure TimeRange where
  start : Option String := none
  stop : Option String := none
  deriving DecidableEq, Repr

namespace TimeRange

/-- Why two texts are not a range. -/
inductive Flaw where
  | malformed (bound : String) (flaw : Moment.Flaw)
  | inverted (start stop : Moment)
  deriving DecidableEq, Repr

def Flaw.message : Flaw → String
  | .malformed bound flaw => bound ++ ": " ++ flaw.message
  | .inverted start stop => "start " ++ String.ofList start.text ++ " is after end " ++ String.ofList stop.text

end TimeRange

namespace Bound

/-- Without one `Z` at the end. -/
def withoutZone (cs : List Char) : List Char :=
  if cs.getLast? = some 'Z' then cs.dropLast else cs

/-- The bound that a text denotes, or none if the text is blank. -/
def ofText? (text : String) : Except TimeRange.Flaw (Option Bound) :=
  let entered := Text.trimChars text.toList
  if entered = [] then .ok none
  else
    let bare := withoutZone entered
    match Moment.ofChars? bare with
    | .ok moment => .ok (some ⟨moment, String.ofList (bare ++ ['Z'])⟩)
    | .error flaw => .error (.malformed (String.ofList entered) flaw)

end Bound

namespace TimeRange

/-- The range between two texts; a fault of the start is found first. -/
def ofTexts? (start stop : String) : Except Flaw TimeRange := do
  let start ← Bound.ofText? start
  let stop ← Bound.ofText? stop
  let range : TimeRange := ⟨start.map (·.text), stop.map (·.text)⟩
  match start, stop with
  | some s, some e => if e.moment.rank < s.moment.rank then .error (.inverted s.moment e.moment) else .ok range
  | _, _ => .ok range

/-- What is sent for the start. -/
def startParam (range : TimeRange) : String := range.start.getD ""

/-- What is sent for the end. -/
def stopParam (range : TimeRange) : String := range.stop.getD ""

end TimeRange

end SeriesExport
