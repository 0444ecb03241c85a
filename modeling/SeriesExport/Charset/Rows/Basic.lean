import SeriesExport.Charset.Decoder

/-!
# Rows of characters

Large sets of characters are laid out in rows of places. A row is written as a text; the replacement character and all
places behind the end of the text are empty.
-/

namespace SeriesExport.Charset

structure Rows where
  rows : Array (Array Char)

namespace Rows

def ofLines (lines : List String) : Rows := ⟨(lines.map fun line => line.toList.toArray).toArray⟩

/-- The character at a place, if it is not empty. -/
def char? (r : Rows) (row place : Nat) : Option Char :=
  ((r.rows.getD row #[])[place]?).filter (· ≠ replacement)

end Rows

end SeriesExport.Charset
