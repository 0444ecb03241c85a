import SeriesExport.Http.Chunks
import SeriesExport.Number.Power

/-!
# Bodies of answers

Where the body of an answer ends is said by its head (`Head.framing?`): some statuses come without one, else it is in
chunks, or as long as the head says, or it ends with the connection. A head that contradicts itself says nothing, and
a body that ends too early is none (`Framing.read?`).
-/

namespace SeriesExport.Http

inductive Framing where
  | absent
  | chunked
  | sized (length : Nat)
  | untilClosed
  deriving DecidableEq, Repr

/-- The pieces of a value that is a list, without the blanks around them. -/
def listPieces (value : String) : List String :=
  (Text.splitOn ',' value.toList).map fun piece => trimValue (String.ofList piece)

/-- The number that a text of digits denotes. -/
def digits? (s : String) : Option Nat :=
  if s ≠ "" && s.toList.all Char.isDigit then some (Text.value s.toList) else none

/-- The greatest length that a head can give. -/
def lengthLimit : Nat := twoTo 64 - 3

/-- The length on which all values agree; a value may be a list of lengths. -/
def commonLength? (values : List String) : Option Nat := do
  let lengths ← (values.flatMap listPieces).mapM digits?
  let length ← lengths.head?
  if values.all isPlainValue && lengths.all (· = length) && length ≤ lengthLimit then some length else none

namespace Head

/-- Whether the last way in which the body has been encoded is the one in chunks. -/
def isChunked (h : Head) : Bool :=
  match (h.headers.values "Transfer-Encoding").getLast? with
  | some value => isPlainValue value && (listPieces value).getLast?.any (sameName "chunked")
  | none => false

/-- Version 1.0 knows no encodings for the transfer. -/
def framing? (h : Head) : Option Framing :=
  if h.status = 101 || h.status = 204 || h.status = 304 then some .absent
  else if (h.headers.value? "Transfer-Encoding").isSome then
    if h.old then none else some (if h.isChunked then .chunked else .untilClosed)
  else match h.headers.values "Content-Length" with
    | [] => some .untilClosed
    | values => (commonLength? values).map .sized

end Head

/-- The body, of what follows the head until the connection is closed; none if it ends too early. -/
def Framing.read? (rest : List UInt8) : Framing → Option (List UInt8)
  | absent => some []
  | chunked => readChunks {} rest
  | sized length => if length ≤ rest.length then some (rest.take length) else none
  | untilClosed => some rest

example : commonLength? ["3", "03, 3"] = some 3 ∧ commonLength? ["3", "2"] = none ∧ commonLength? ["+3"] = none ∧
    commonLength? ["18446744073709551614"] = none := by decide +kernel

end SeriesExport.Http
