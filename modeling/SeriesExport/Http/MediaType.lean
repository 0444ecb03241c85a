import SeriesExport.Charset.Label
import SeriesExport.Http.Header
import SeriesExport.Text.Split

/-!
# Media types

What kind of text a body is: a type and a subtype with a slash between them, and parameters, each a name and a value
with an equals sign between them (`parameters?`). A value is a token or stands in quotation marks. One parameter says in
which charset the text is written; where none does, or the media type is not written by the rules, or the charset is not
known, it is UTF-8 (`charsetOf`).
-/

namespace SeriesExport.Http

/-- What a reader of parameters is in. -/
inductive ParameterPlace where
  | name
  | value
  | quoted
  /-- behind a quoted value -/
  | behind
  deriving DecidableEq

structure ParameterReader where
  place : ParameterPlace := .name
  /-- the name of the current parameter, once it has been read -/
  name : List Char := []
  /-- the current name or value so far, the last character first -/
  word : List Char := []
  /-- the parameters that have been read -/
  found : List (String × String) := []

namespace ParameterReader

/-- The reader behind the value. -/
def close (r : ParameterReader) (place : ParameterPlace) : ParameterReader :=
  { place, found := r.found ++ [(String.ofList r.name, String.ofList r.word.reverse)] }

/-- The reader behind one more character; none if it may not stand there. -/
def step (r : ParameterReader) (c : Char) : Option ParameterReader :=
  let longer := { r with word := c :: r.word }
  match r.place with
  | .name =>
    if isTokenChar c then some longer
    else if c = ' ' ∧ r.word = [] then some r
    else if c = '=' ∧ r.word ≠ [] then some { r with place := .value, name := r.word.reverse, word := [] }
    else none
  | .value =>
    if isTokenChar c then some longer
    else if c = '"' ∧ r.word = [] then some { r with place := .quoted }
    else if c = ';' ∧ r.word ≠ [] then some (r.close .name)
    else none
  | .quoted =>
    if c = '"' ∧ r.word ≠ [] then some (r.close .behind)
    else if ' ' ≤ c ∧ c ≠ '\x7f' then some longer
    else none
  | .behind => if c = ';' then some { r with place := .name } else if c = ' ' then some r else none

/-- All parameters; none if the last one is not complete. -/
def finish (r : ParameterReader) : Option (List (String × String)) :=
  match r.place with
  | .name => if r.word = [] then some r.found else none
  | .value => some (r.close .name).found
  | .quoted => none
  | .behind => some r.found

end ParameterReader

/-- The parameters of a media type; none if it is none. The first of them may follow a space or a semicolon. -/
def parameters? (value : String) : Option (List (String × String)) := do
  let (kind, rest) ← Text.cut? '/' value.toList
  let subtype := rest.takeWhile isTokenChar
  if kind = [] ∨ !kind.all isTokenChar then none
  else match rest.dropWhile isTokenChar with
    | [] => some []
    | mark :: written =>
      if (mark = ';' ∨ mark = ' ') ∧ subtype ≠ [] then (← written.foldlM ParameterReader.step {}).finish else none

/-- The charset of a body with the headers. -/
def charsetOf (headers : Headers) : Charset :=
  let label := do
    let value ← (headers.value? "Content-Type").filter isPlainValue
    let found ← parameters? value
    Charset.ofLabel? (← Headers.value? found "charset")
  label.getD .utf8

example : parameters? "a/b; c=d;e=\"f;g\" ; h=" = some [("c", "d"), ("e", "f;g"), ("h", "")] ∧
    parameters? "a/b ;c=d" = none ∧ parameters? "a/b; c" = none ∧ parameters? "a; b/c" = none := by decide +kernel

end SeriesExport.Http
