import SeriesExport.Calendar.Timestamp
import SeriesExport.Job
import SeriesExport.Paging.Page

/-!
# Rows

A record becomes a row with a cell for each key of the projection. A cell without a value is `null`. Times are written
as the job asks (`isoTime`).
-/

namespace SeriesExport

/-- One cell for each column. -/
abbrev Row := List Json

/-- Seconds since 1970-01-01 as ISO 8601, cut to milliseconds. What is no number, or no time of the calendar, stays. -/
def isoTime (value : Json) : Json :=
  match value with
  | .number n =>
    match (n.toBinary64.mul (.ofNat 1000)).truncate? with
    | some milliseconds => ((timestamp? milliseconds).map Json.string).getD value
    | none => value
  | _ => value

/-- The value of a record's member in the output. -/
def cell (timeKeys : List String) (format : TimeFormat) (key : String) (value : Json) : Json :=
  if format = .iso8601 ∧ key ∈ timeKeys then isoTime value else value

/-- The row with the value of one more member at the first column of its key. -/
def place (attributes : Projection) (row : Row) (key : String) (value : Json) : Row :=
  match attributes.idxOf? key with
  | some i => row.set i value
  | none => row

/-- The row of a record. Members outside the projection are dropped. -/
def projectRecord (attributes : Projection) (timeKeys : List String) (format : TimeFormat) (record : Record) : Row :=
  record.foldl (fun row (key, value) => place attributes row key (cell timeKeys format key value))
    (List.replicate attributes.length .null)

end SeriesExport
