import SeriesExport.Number.Shortest

/-!
# Numbers of JSON

A literal keeps the digits as they are written (`NumberLiteral`). Its value is an integer if it is written as one and
fits into 64 bits, signed or unsigned, and otherwise a binary floating point number (`NumberLiteral.value?`).

The value of a floating point literal is not always the nearest one. It is found from as many leading digits as 64 bits
hold, with one rounding for these digits, one for the power of ten and one for their product or quotient.
Literals like `1e23` and long fractions may therefore differ from the nearest number in the last bit.
-/

namespace SeriesExport.Json

open Text (digits digitValue value integer)

inductive Number where
  | integer (i : Int)
  | real (x : Binary64)
  deriving DecidableEq, Repr

/-- `exponent` is the sign, negative or not, and the digits. -/
structure NumberLiteral where
  negative : Bool
  whole : List Char
  fraction : Option (List Char)
  exponent : Option (Bool × List Char)
  deriving DecidableEq, Repr

/-! ## Reading -/

/-- The largest number of 64 unsigned bits. -/
def maxWord : Nat := UInt64.size - 1

/-- Appends digits to a number while it fits into 64 bits; also the digits that are left over. -/
def takeDigits (n : Nat) : List Char → Nat × List Char
  | [] => (n, [])
  | d :: ds => if 10 * n + digitValue d ≤ maxWord then takeDigits (10 * n + digitValue d) ds else (n, d :: ds)

/-- The largest power of ten of a finite number. -/
def maxPower : Nat := 308

def power (n : Nat) : Binary64 := Binary64.ofDecimal false 1 n

/-- `x / 10 ^ n`, in steps of at most `maxPower`. -/
def dividedByPower (x : Binary64) (n : Nat) : Binary64 :=
  if n ≤ maxPower then x.div (power n)
  else if x.isZero then x
  else dividedByPower (x.div (power maxPower)) (n - maxPower)
termination_by n
decreasing_by simp only [maxPower]; omega

/-- `significand * 10 ^ exponent`, unless that is not finite. -/
def magnitude? (significand : Nat) (exponent : Int) : Option Binary64 :=
  let x := Binary64.ofNat significand
  if exponent < 0 then some (dividedByPower x exponent.natAbs)
  else if exponent.natAbs ≤ maxPower then
    let product := x.mul (power exponent.natAbs)
    if product.isFinite then some product else none
  else if x.isZero then some x
  else none

/-- The largest exponent that is taken as written. -/
def maxExponent : Nat := 2147483647

namespace NumberLiteral

/-- The leading digits that fit into 64 bits and the power of ten that they are to be multiplied with. Digits of the
whole part that do not fit count as zeros, those of the fraction are dropped. -/
def leading (l : NumberLiteral) : Nat × Int :=
  let (n, dropped) := takeDigits 0 l.whole
  let fraction := l.fraction.getD []
  let (m, unused) := takeDigits n fraction
  (m, dropped.length - (fraction.length - unused.length : Nat))

def magnitude? (l : NumberLiteral) : Option Binary64 :=
  let (significand, shift) := l.leading
  match l.exponent with
  | none => Json.magnitude? significand shift
  | some (negative, ds) =>
    if value ds ≤ maxExponent then
      Json.magnitude? significand (if negative then shift - value ds else shift + value ds)
    else if significand ≠ 0 ∧ !negative then none
    else some (Binary64.zero false)

def real? (l : NumberLiteral) : Option Number :=
  l.magnitude?.map fun x => .real (if l.negative then x.neg else x)

/-- The number that a literal denotes; none if it is too large. -/
def value? (l : NumberLiteral) : Option Number :=
  if l.fraction.isSome ∨ l.exponent.isSome then l.real?
  else
    let n := value l.whole
    if l.negative then
      if n ≠ 0 ∧ n ≤ 9223372036854775808 then some (.integer (-n)) else l.real?
    else if n ≤ maxWord then some (.integer n)
    else l.real?

end NumberLiteral

/-! ## Writing -/

/-- How a decimal is laid out: leading exponents from `plainFrom` up to, but without, `plainUntil` are written without
an exponent, and then with at least one digit behind the point. -/
structure Layout where
  plainFrom : Int
  plainUntil : Int

def numberLayout : Layout := ⟨-5, 16⟩

/-- A positive decimal `d.ddd * 10 ^ leading` in the given layout. -/
def Layout.text (layout : Layout) (ds : List Char) (leading : Int) : List Char :=
  if leading < layout.plainFrom ∨ layout.plainUntil ≤ leading then
    let mantissa := match ds with
      | [] => []
      | [d] => [d]
      | d :: more => d :: '.' :: more
    mantissa ++ 'e' :: (if leading < 0 then '-' else '+') :: digits leading.natAbs
  else if leading < 0 then
    '0' :: '.' :: List.replicate (leading.natAbs - 1) '0' ++ ds
  else
    let places := leading.natAbs + 1
    let whole := ds.take places
    let fraction := ds.drop places
    whole ++ List.replicate (places - whole.length) '0' ++ '.' :: (if fraction = [] then ['0'] else fraction)

/-- JSON has no text for what is not finite; it is written as `null`. -/
def realText : Binary64 → List Char
  | .finite negative significand exponent =>
    let sign := if negative then ['-'] else []
    if significand = 0 then sign ++ ['0', '.', '0']
    else
      let (ds, leading) := Shortest.shortest significand exponent
      sign ++ numberLayout.text ds leading
  | _ => ['n', 'u', 'l', 'l']

def Number.text : Number → List Char
  | .integer i => Text.integer i
  | .real x => realText x

/-- The number as a binary floating point one; large integers are rounded. -/
def Number.toBinary64 : Number → Binary64
  | .integer i => Binary64.ofInt i
  | .real x => x

end SeriesExport.Json
