/-!
# Base64

Bytes as text: three bytes are four characters of six bits each, and what is missing at the end is filled up with
equals signs (`base64`), so that the length is always a multiple of four (`length_base64`).
-/

namespace SeriesExport.Text

def base64Digits : List Char :=
  "ABCDEFGHIJKLMNOPQRSTUVWXYZabcdefghijklmnopqrstuvwxyz0123456789+/".toList

/-- The character for the six lowest bits of `n`. -/
def base64Digit (n : Nat) : Char := base64Digits.getD (n % 64) 'A'

def base64 : List UInt8 → List Char
  | [] => []
  | [a] => [base64Digit (a.toNat / 4), base64Digit (a.toNat * 16), '=', '=']
  | [a, b] =>
    let n := a.toNat * 256 + b.toNat
    [base64Digit (n / 1024), base64Digit (n / 16), base64Digit (n * 4), '=']
  | a :: b :: c :: rest =>
    let n := (a.toNat * 256 + b.toNat) * 256 + c.toNat
    base64Digit (n / 262144) :: base64Digit (n / 4096) :: base64Digit (n / 64) :: base64Digit n :: base64 rest

theorem length_base64 : ∀ bytes, (base64 bytes).length = (bytes.length + 2) / 3 * 4
  | [] => rfl
  | [_] => by simp [base64]
  | [_, _] => by simp [base64]
  | _ :: _ :: _ :: rest => by
    simp only [base64, List.length_cons, length_base64 rest]
    omega

example : base64 "Man".toUTF8.data.toList = "TWFu".toList ∧ base64 "Ma".toUTF8.data.toList = "TWE=".toList ∧
    base64 "M".toUTF8.data.toList = "TQ==".toList := by decide +kernel

end SeriesExport.Text
