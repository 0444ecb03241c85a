import SeriesExport.Http.Encoding
import SeriesExport.Http.HostForm
import SeriesExport.Number.Power

/-!
# Hosts

A host is an address of 32 bits or a name. It is read as the URL standard says (`Host.ofText?`): percent-encoded bytes
are decoded, every character counts as its form in names of hosts, and if the last label is a number then all labels
have to be, and the host is an address. In `10.1` and `0x0A.1` the last number fills all bytes that are left.
-/

namespace SeriesExport.Http

inductive Host where
  | address (number : UInt32)
  | name (text : String)
  deriving DecidableEq, Repr

namespace Host

/-! ## Numbers -/

/-- The number that digits denote in a base of at most sixteen; no digits denote zero. -/
def valueIn? (base : Nat) (ds : List Char) : Option Nat :=
  ds.foldlM (fun n c => (Text.hexValue? c).bind fun d => if d < base then some (base * n + d) else none) 0

/-- A label that is a number: hexadecimal behind `0x`, octal behind any other zero, else decimal. -/
def number? : List Char → Option Nat
  | [] => none
  | '0' :: 'x' :: ds => valueIn? 16 ds
  | '0' :: ds => valueIn? 8 ds
  | ds => valueIn? 10 ds

/-- The labels between the dots; a dot at the end has none behind it. -/
def labels (text : List Char) : List (List Char) :=
  let all := Text.splitOn '.' text
  if 1 < all.length ∧ all.getLast? = some [] then all.dropLast else all

def looksNumeric (label : List Char) : Bool := label ≠ [] && (label.all Char.isDigit || (number? label).isSome)

/-- The address whose bytes are given by at most four numbers, the last of which stands for all that are left. -/
def address? (numbers : List Nat) : Option UInt32 := do
  let last ← numbers.getLast?
  let front := numbers.dropLast
  let room := twoTo (8 * (4 - front.length))
  if front.length ≤ 3 ∧ front.all (· < 256) ∧ last < room then
    some (.ofNat (room * front.foldl (256 * · + ·) 0 + last))
  else none

/-! ## Reading -/

/-- What the name of a host can be made of. -/
def isNameChar (c : Char) : Bool :=
  isPrintable c && !(['#', '%', '/', ':', '<', '>', '?', '@', '[', '\\', ']', '^', '|'].contains c)

def ofText? (written : List Char) : Option Host := do
  let text := (← decodedText? written).toList.flatMap hostForm
  if text = [] ∨ !text.all isNameChar then none
  else if (labels text).getLast?.any looksNumeric then return .address (← address? (← (labels text).mapM number?))
  else some (.name (String.ofList text))

/-! ## Writing -/

/-- The bytes of an address in decimal. -/
def dotted (number : UInt32) : List Char :=
  let n := number.toNat
  Text.join ['.'] ([n / 16777216, n / 65536 % 256, n / 256 % 256, n % 256].map Text.digits)

def text : Host → String
  | address number => String.ofList (dotted number)
  | name text => text

/-! ## Looking up -/

/-- A label that is a number when a host is looked up, where `0x` needs digits behind it. -/
def lookUpNumber? (label : List Char) : Option Nat :=
  let label := label.map Char.toLower
  if label = ['0', 'x'] then none else number? label

/-- What is found under a text. It is found as an address if its labels are numbers, with no dot behind the last one. -/
def lookedUp (text : String) : Host :=
  match ((Text.splitOn '.' text.toList).mapM lookUpNumber?).bind address? with
  | some number => .address number
  | none => .name text

example : lookedUp "0X7f.1" = .address 0x7f000001 ∧ lookedUp "127.0.0.1." = .name "127.0.0.1." ∧
    lookedUp "127.0x" = .name "127.0x" := by decide +kernel

example : ofText? "0x7F.1.".toList = some (.address 0x7f000001) ∧
    ofText? "0177.0.1".toList = some (.address 0x7f000001) ∧ ofText? "1.2.3.256".toList = none ∧
    ofText? "1.2.3.4.5".toList = none ∧ ofText? "a.08".toList = none ∧
    ofText? "Ａ%2eb".toList = some (.name "a.b") ∧ (address 0x7f000001).text = "127.0.0.1" := by decide +kernel

end Host

end SeriesExport.Http
