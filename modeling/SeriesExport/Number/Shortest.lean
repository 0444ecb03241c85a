import SeriesExport.Number.Binary64
import SeriesExport.Text.Digits

/-!
# The shortest decimal that reads back

Of the decimals that round to a given positive binary number, `shortest` takes the one with the fewest digits, and of
those the one nearest to the number. The decimals that round to it form an interval around it (`Target.covers`), whose
ends belong to it if the significand is even. A decimal grid has a point in the interval only if one of the two grid
points next to the number is in it, so for 1, 2, … digits these two are tried.
-/

namespace SeriesExport.Shortest

open Text (digits)

/-- A decimal number `significand * 10 ^ exponent`. -/
structure Decimal where
  significand : Nat
  exponent : Int
  deriving DecidableEq, Repr

/-- The positive rational `significand * 2 ^ exponent` and the interval of what rounds to it, in quarters of the last
bit: the number is `4 * significand`, the interval ends `below` before it and two quarters after it. -/
structure Target where
  significand : Nat
  exponent : Int

namespace Target

/-- Below a power of two the numbers are twice as dense. -/
def below (t : Target) : Nat :=
  if t.significand = twoTo 52 ∧ Binary64.minExponent < t.exponent then 1 else 2

/-- `count` quarters of the last bit, as a quotient. -/
def quarters (t : Target) (count : Nat) : Nat × Nat :=
  Binary64.scaled count 4 (-t.exponent)

/-- Whether a decimal rounds to the number. -/
def covers (t : Target) (d : Decimal) : Bool :=
  let num := d.significand * tenTo d.exponent.toNat
  let den := tenTo (-d.exponent).toNat
  let (low, lowDen) := t.quarters (4 * t.significand - t.below)
  let (high, highDen) := t.quarters (4 * t.significand + 2)
  if t.significand % 2 = 0 then low * den ≤ num * lowDen ∧ num * highDen ≤ high * den
  else low * den < num * lowDen ∧ num * highDen < high * den

/-- The exponent of the leading decimal digit. -/
def decimalExponent (t : Target) : Int :=
  let (num, den) := t.quarters (4 * t.significand)
  if den ≤ num then (digits (num / den)).length - 1 else -(digits ((den - 1) / num)).length

/-- The number divided by `10 ^ exponent`, as a quotient. -/
def inUnitsOf (t : Target) (exponent : Int) : Nat × Nat :=
  let (num, den) := t.quarters (4 * t.significand)
  (num * tenTo (-exponent).toNat, den * tenTo exponent.toNat)

/-- The better of the two points next to the number on the grid of `10 ^ exponent`, if one of them rounds to it. -/
def neighbour? (t : Target) (exponent : Int) : Option Decimal :=
  let (num, den) := t.inUnitsOf exponent
  let down : Decimal := ⟨num / den, exponent⟩
  let up : Decimal := ⟨num / den + 1, exponent⟩
  let nearDown := 2 * (num % den) < den ∨ 2 * (num % den) = den ∧ num / den % 2 = 0
  match t.covers down, t.covers up with
  | true, true => some (if nearDown then down else up)
  | true, false => some down
  | false, true => some up
  | false, false => none

/-- Tries grids with more and more digits; 17 digits are always enough. -/
def search (t : Target) (leading : Int) : Nat → Decimal
  | 0 => ⟨(t.inUnitsOf (leading - 16)).1 / (t.inUnitsOf (leading - 16)).2, leading - 16⟩
  | more + 1 =>
    match t.neighbour? (leading - 16 + more) with
    | some d => d
    | none => t.search leading more

end Target

/-- Without the zeros at the end, at most `most` of them. -/
def Decimal.stripped (d : Decimal) : Nat → Decimal
  | 0 => d
  | most + 1 =>
    if d.significand % 10 = 0 then (⟨d.significand / 10, d.exponent + 1⟩ : Decimal).stripped most else d

/-- The digits of the shortest decimal for `significand * 2 ^ exponent`, and the exponent of the leading one. -/
def shortest (significand : Nat) (exponent : Int) : List Char × Int :=
  let t : Target := ⟨significand, exponent⟩
  let d := (t.search t.decimalExponent 17).stripped 17
  let ds := digits d.significand
  (ds, d.exponent + ds.length - 1)

end SeriesExport.Shortest
