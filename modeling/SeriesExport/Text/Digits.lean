/-!
# Digits

Decimal and hexadecimal digits of natural numbers. `value` reads a run of decimal digits, `padded` writes at least a
given number of them; the `\u` escapes and the percent encoding take their digits from `hexDigit` and `hexDigitUpper`.
-/

namespace SeriesExport.Text

/-- What an ASCII digit is worth. -/
def digitValue (c : Char) : Nat := c.toNat - '0'.toNat

/-- The number that a run of decimal digits denotes. -/
def value (ds : List Char) : Nat := Nat.ofDigitChars 10 ds 0

/-- The decimal digits of `n`, the leading one first. -/
def digits (n : Nat) : List Char := Nat.toDigits 10 n

/-- The digits of `n`, with zeros in front up to `width` places. -/
def padded (width n : Nat) : List Char :=
  List.replicate (width - (digits n).length) '0' ++ digits n

/-- The decimal text of an integer. -/
def integer : Int → List Char
  | .ofNat n => digits n
  | .negSucc n => '-' :: digits (n + 1)

def hexDigits : List Char :=
  ['0', '1', '2', '3', '4', '5', '6', '7', '8', '9', 'a', 'b', 'c', 'd', 'e', 'f']

/-- The lower-case hexadecimal digit of `n % 16`. -/
def hexDigit (n : Nat) : Char := hexDigits.getD (n % 16) '0'

/-- The upper-case hexadecimal digit of `n % 16`. -/
def hexDigitUpper (n : Nat) : Char := (hexDigit n).toUpper

/-- What a hexadecimal digit of either case is worth. -/
def hexValue? (c : Char) : Option Nat :=
  if '0' ≤ c ∧ c ≤ '9' then some (c.toNat - '0'.toNat)
  else if 'a' ≤ c ∧ c ≤ 'f' then some (c.toNat - 'a'.toNat + 10)
  else if 'A' ≤ c ∧ c ≤ 'F' then some (c.toNat - 'A'.toNat + 10)
  else none

/-- The lower-case hexadecimal digits of `n`, exactly `width` of them. -/
def hex : Nat → Nat → List Char
  | 0, _ => []
  | width + 1, n => hex width (n / 16) ++ [hexDigit n]

/-- An upper-case digit is worth what it was written for. -/
@[simp] theorem hexValue?_hexDigitUpper (n : Nat) : hexValue? (hexDigitUpper n) = some (n % 16) := by
  have h : ∀ k < 16, hexValue? (hexDigits.getD k '0').toUpper = some k := by decide
  exact h _ (Nat.mod_lt _ (by decide))

@[simp] theorem value_digits (n : Nat) : value (digits n) = n := Nat.ofDigitChars_ten_toDigits

theorem isDigit_of_mem_digits {n : Nat} {c : Char} (h : c ∈ digits n) : c.isDigit :=
  Nat.isDigit_of_mem_toDigits (b := 10) (by decide) (by decide) h

theorem digits_ne_nil (n : Nat) : digits n ≠ [] := Nat.toDigits_ne_nil

@[simp] theorem value_padded (width n : Nat) : value (padded width n) = n := by
  simp [value, padded, Nat.ofDigitChars_append, Nat.ofDigitChars_replicate_zero, digits,
    Nat.ofDigitChars_ten_toDigits]

example : padded 4 7 = ['0', '0', '0', '7'] ∧ padded 2 123 = ['1', '2', '3'] ∧ value ['0', '4', '2'] = 42 := by decide

end SeriesExport.Text
