import SeriesExport.Json.Printer
import SeriesExport.Table.RowStore

/-!
# Tables as text

Cells are separated by commas and rows end with a line feed, except the last one. A cell with a comma, a quote or a
line break is put in quotes, and then a quote inside it is written twice. A row of a single empty cell is an empty
line; a row without any cell is written as an empty pair of quotes.
-/

namespace SeriesExport.Csv

/-- The text of a cell, before quoting. -/
def cellText : Json → List Char
  | .null => []
  | .string s => s.toList
  | value => value.text

/-- Whether a cell with this character is put in quotes. -/
def isSpecial (c : Char) : Bool := c = ',' || c = '"' || c = '\r' || c = '\n'

/-- A quote stands for itself when it is written twice. -/
def doubled : Char → List Char
  | '"' => ['"', '"']
  | c => [c]

def field (cell : List Char) : List Char :=
  if cell.any isSpecial then '"' :: cell.flatMap doubled ++ ['"'] else cell

/-- The cells with a comma between any two. -/
def fields : List (List Char) → List Char
  | [] => []
  | [cell] => field cell
  | cell :: next :: cells => field cell ++ ',' :: fields (next :: cells)

/-- A row with its line feed. -/
def line : List (List Char) → List Char
  | [] => ['"', '"', '\n']
  | cells => fields cells ++ ['\n']

/-- Every row ends with a line feed, so the last character of the lines is one. -/
def renderCells (rows : List (List (List Char))) : List Char := (rows.flatMap line).dropLast

def render (rows : List Row) : String := String.ofList (renderCells (rows.map fun row => row.map cellText))

end SeriesExport.Csv
