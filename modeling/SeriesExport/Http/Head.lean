import SeriesExport.Http.Header
import SeriesExport.Text.Digits
import SeriesExport.Text.Split

/-!
# Heads of answers

An answer begins with a head: a line with the status, lines with headers, and an empty line. Lines end with a line feed,
and one carriage return in front of it does not count. Notices, which say that an answer will follow, have no body, so
what follows their head is the head of the next notice or of the answer (`readHead`). A head that is not written by
these rules is no head; nothing in it is guessed.

Each byte of a head is read as the character with its number.
-/

namespace SeriesExport.Http

structure Head where
  /-- whether the answer is in version 1.0 and not in 1.1 -/
  old : Bool
  /-- three digits, the first of which is not zero -/
  status : Nat
  headers : Headers
  deriving DecidableEq, Repr

namespace Head

/-- The end of the first line may say in words what the status means. -/
def isReason : List Char → Bool
  | [] => true
  | ' ' :: words => isHeaderValue (String.ofList words)
  | _ => false

/-- The version and the status. -/
def statusLine? : List Char → Option (Bool × Nat)
  | 'H' :: 'T' :: 'T' :: 'P' :: '/' :: '1' :: '.' :: minor :: ' ' :: a :: b :: c :: reason =>
    if (minor = '0' || minor = '1') && [a, b, c].all Char.isDigit && a ≠ '0' && isReason reason then
      some (minor = '0', Text.value [a, b, c])
    else none
  | _ => none

/-- The name reaches up to the colon, with no blank around it. -/
def header? (line : List Char) : Option (String × String) := do
  let (name, value) ← Text.cut? ':' line
  let (name, value) := (String.ofList name, String.ofList value)
  if isHeaderName name && isHeaderValue value then some (name, trimValue value) else none

/-- The greatest number of headers in a head. -/
def headerLimit : Nat := 100

def ofLines? : List (List Char) → Option Head
  | [] => none
  | first :: rest => do
    let (old, status) ← statusLine? first
    let headers ← rest.mapM header?
    if headers.length ≤ headerLimit then some ⟨old, status, headers⟩ else none

/-- Status 101 ends the conversation, so it is an answer. -/
def isNotice (h : Head) : Bool := h.status < 200 && h.status ≠ 101

end Head

/-- A line without the carriage return at its end; the line is given and returned with its last character first. -/
def withoutReturn : List Char → List Char
  | '\r' :: line => line
  | line => line

/-- The head of the answer and what follows it; `line` is the current line so far, the last character first, and
`lines` are the lines before it, the last one first. Empty lines in front of a head do not count. -/
def readHead (line : List Char) (lines : List (List Char)) : List UInt8 → Option (Head × List UInt8)
  | [] => none
  | 10 :: rest =>
    match withoutReturn line, lines with
    | [], [] => readHead [] [] rest
    | [], lines =>
      match Head.ofLines? lines.reverse with
      | none => none
      | some head => if head.isNotice then readHead [] [] rest else some (head, rest)
    | whole, lines => readHead [] (whole.reverse :: lines) rest
  | b :: rest => readHead (Char.ofNat b.toNat :: line) lines rest

example : readHead [] [] "\r\nHTTP/1.1 103\n\nHTTP/1.0 200 All right\r\nA:  b \r\n\r\nok".toUTF8.data.toList =
    some (⟨true, 200, [("A", "b")]⟩, "ok".toUTF8.data.toList) := by decide +kernel

example : Head.header? "A : b".toList = none ∧ Head.header? " A: b".toList = none ∧
    Head.statusLine? "HTTP/1.1 099 X".toList = none ∧ Head.statusLine? "HTTP/2 200".toList = none := by decide +kernel

end SeriesExport.Http
