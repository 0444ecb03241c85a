import SeriesExport.Number.Power

/-!
# Binary floating point of 64 bits

A finite number is a sign, a significand below `2 ^ 53` and the power of two that its last bit counts. Every result is
computed exactly, as a quotient of natural numbers, and then rounded once (`ofRatio`): to the nearest number, a tie
to the one with the even significand. `toBits` is the interchange form.
-/

namespace SeriesExport

inductive Binary64 where
  | finite (negative : Bool) (significand : Nat) (exponent : Int)
  | infinite (negative : Bool)
  | nan
  deriving DecidableEq, Repr

namespace Binary64

/-- The exponent of the last bit of the smallest numbers. -/
def minExponent : Int := -1074

/-- The exponent of the last bit of the largest numbers. -/
def maxExponent : Int := 971

def zero (negative : Bool) : Binary64 := .finite negative 0 minExponent

/-! ## Rounding -/

/-- The integer nearest to `num / den`, a tie going to the even one. -/
def roundDiv (num den : Nat) : Nat :=
  let quotient := num / den
  let rest := 2 * (num % den)
  if rest < den then quotient
  else if den < rest then quotient + 1
  else quotient + quotient % 2

/-- `num / den` divided by `2 ^ exponent`, again as a quotient. -/
def scaled (num den : Nat) (exponent : Int) : Nat × Nat :=
  (num * twoTo (-exponent).toNat, den * twoTo exponent.toNat)

/-- The greatest `k` with `2 ^ k ≤ num / den`. -/
def binaryExponent (num den : Nat) : Int :=
  let guess : Int := num.log2 - den.log2
  let (n, d) := scaled num den guess
  if n < d then guess - 1 else guess

/-- The exponent of the last of 53 bits of `num / den`, or the smallest one if that is larger. -/
def lastBit (num den : Nat) : Int :=
  max (binaryExponent num den - 52) minExponent

/-- The number nearest to `num / den` with the given sign. -/
def ofRatio (negative : Bool) (num den : Nat) : Binary64 :=
  if num = 0 then zero negative
  else
    let exponent := lastBit num den
    let (n, d) := scaled num den exponent
    let rounded := roundDiv n d
    let (significand, exponent) := if rounded = twoTo 53 then (twoTo 52, exponent + 1) else (rounded, exponent)
    if maxExponent < exponent then .infinite negative else .finite negative significand exponent

/-- The number nearest to `significand * 2 ^ exponent`. -/
def ofScaled (negative : Bool) (significand : Nat) (exponent : Int) : Binary64 :=
  ofRatio negative (significand * twoTo exponent.toNat) (twoTo (-exponent).toNat)

def ofNat (n : Nat) : Binary64 := ofRatio false n 1

def ofInt (i : Int) : Binary64 := ofRatio (i < 0) i.natAbs 1

/-- The number nearest to `significand * 10 ^ exponent`. A number of `n` digits before the point is above every finite
one if `n > 310`, and one with 330 zeros behind the point rounds to zero. -/
def ofDecimal (negative : Bool) (significand : Nat) (exponent : Int) : Binary64 :=
  let leading : Int := (Nat.toDigits 10 significand).length + exponent
  if significand = 0 ∨ leading < -330 then zero negative
  else if 310 < leading then .infinite negative
  else ofRatio negative (significand * tenTo exponent.toNat) (tenTo (-exponent).toNat)

/-! ## Arithmetic -/

def isFinite : Binary64 → Bool
  | .finite .. => true
  | _ => false

/-- Zero of either sign. -/
def isZero : Binary64 → Bool
  | .finite _ m _ => m = 0
  | _ => false

def neg : Binary64 → Binary64
  | .finite s m e => .finite (!s) m e
  | .infinite s => .infinite (!s)
  | .nan => .nan

def mul : Binary64 → Binary64 → Binary64
  | .finite s m e, .finite t n f => ofScaled (s != t) (m * n) (e + f)
  | .infinite s, .infinite t => .infinite (s != t)
  | .infinite s, .finite t n _ | .finite t n _, .infinite s => if n = 0 then .nan else .infinite (s != t)
  | _, _ => .nan

def div : Binary64 → Binary64 → Binary64
  | .finite s m e, .finite t n f =>
    if n = 0 then (if m = 0 then .nan else .infinite (s != t))
    else
      let (num, den) := scaled m n (f - e)
      ofRatio (s != t) num den
  | .finite s _ _, .infinite t => zero (s != t)
  | .infinite s, .finite t _ _ => .infinite (s != t)
  | _, _ => .nan

/-- A finite number as a multiple of `2 ^ minExponent`. -/
def units (negative : Bool) (significand : Nat) (exponent : Int) : Int :=
  let magnitude := significand * twoTo (exponent - minExponent).toNat
  if negative then -magnitude else magnitude

/-- A difference of equal numbers is the positive zero, except that `-0 - 0` is negative. -/
def sub : Binary64 → Binary64 → Binary64
  | .finite s m e, .finite t n f =>
    let difference := units s m e - units t n f
    if difference = 0 then zero (s && !t && m = 0)
    else ofScaled (difference < 0) difference.natAbs minExponent
  | .infinite s, .infinite t => if s = t then .nan else .infinite s
  | .infinite s, .finite .. => .infinite s
  | .finite .., .infinite t => .infinite (!t)
  | _, _ => .nan

/-- The order of values: both zeros are equal, and a `nan` is neither below nor above anything. -/
def less : Binary64 → Binary64 → Bool
  | .finite s m e, .finite t n f => units s m e < units t n f
  | .infinite s, .infinite t => s && !t
  | .infinite s, .finite .. => s
  | .finite .., .infinite t => !t
  | _, _ => false

/-- The value moved into `[0, 1]`; a zero keeps its sign and a `nan` stays one. -/
def clampUnit (x : Binary64) : Binary64 :=
  let x := if x.less (zero false) then zero false else x
  if (ofNat 1).less x then ofNat 1 else x

/-- The integer part, if the number is finite. -/
def truncate? : Binary64 → Option Int
  | .finite s m e =>
    let magnitude : Int := ↑(m * twoTo e.toNat / twoTo (-e).toNat)
    some (if s then -magnitude else magnitude)
  | _ => none

/-! ## The interchange form -/

def signBit (negative : Bool) : Nat := if negative then twoTo 63 else 0

def toBits : Binary64 → Nat
  | .finite s m e =>
    signBit s + if m < twoTo 52 then m else (e - minExponent + 1).toNat * twoTo 52 + (m - twoTo 52)
  | .infinite s => signBit s + 2047 * twoTo 52
  | .nan => 2047 * twoTo 52 + twoTo 51

example : (ofNat 1).toBits = 0x3FF0000000000000 ∧ (ofRatio false 1 3).toBits = 0x3FD5555555555555 := by decide +kernel

/-- Ties go to the even significand, and rounding up may carry into the next power of two. -/
example : ofNat (twoTo 53 + 1) = ofNat (twoTo 53) ∧ ofNat (twoTo 53 + 3) = ofNat (twoTo 53 + 4) ∧
    ofNat (twoTo 54 - 1) = ofNat (twoTo 54) := by decide +kernel

example : ofDecimal false 5 (-324) = .finite false 1 minExponent ∧ ofDecimal false 2 (-324) = zero false ∧
    ofDecimal true 1 309 = .infinite true := by decide +kernel

end Binary64

end SeriesExport
