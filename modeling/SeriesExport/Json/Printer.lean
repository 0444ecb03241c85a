import SeriesExport.Json.Basic
import SeriesExport.Text.Digits

/-!
# The compact text of a JSON value

No space stands between tokens, members come in the order of their names, and a string escapes only the quote, the
backslash and what is below the space.
-/

namespace SeriesExport.Json

open Text (hex)

def escape (c : Char) : List Char :=
  match c with
  | '"' => ['\\', '"']
  | '\\' => ['\\', '\\']
  | '\x08' => ['\\', 'b']
  | '\x0c' => ['\\', 'f']
  | '\n' => ['\\', 'n']
  | '\r' => ['\\', 'r']
  | '\t' => ['\\', 't']
  | c => if c < ' ' then '\\' :: 'u' :: hex 4 c.toNat else [c]

def quoted (s : String) : List Char :=
  '"' :: s.toList.flatMap escape ++ ['"']

mutual

def text : Json → List Char
  | .null => ['n', 'u', 'l', 'l']
  | .bool true => ['t', 'r', 'u', 'e']
  | .bool false => ['f', 'a', 'l', 's', 'e']
  | .number n => n.text
  | .string s => quoted s
  | .array items => '[' :: itemsText items ++ [']']
  | .object members => '{' :: membersText members ++ ['}']

/-- The items with a comma between any two. -/
def itemsText : List Json → List Char
  | [] => []
  | [item] => item.text
  | item :: next :: items => item.text ++ ',' :: itemsText (next :: items)

/-- The members with a comma between any two. -/
def membersText : List (String × Json) → List Char
  | [] => []
  | [(name, value)] => quoted name ++ ':' :: value.text
  | (name, value) :: next :: members => quoted name ++ ':' :: value.text ++ ',' :: membersText (next :: members)

end

def render (value : Json) : String := String.ofList value.text

end SeriesExport.Json
