import SeriesExport.Http.Request
import SeriesExport.Text.Digits

/-!
# Encoding for URLs

Characters that may not stand for themselves are written as their UTF-8 bytes, each a percent sign and two hexadecimal
digits. Paths and queries of addresses keep most punctuation (`isPathSafe`, `isQuerySafe`); the names and values of a
query are encoded as forms are, with a plus sign for a space (`form`). In front of the path, encoded bytes count as
what they stand for (`percentDecode`), which undoes any encoding that does not keep percent signs
(`percentDecode_percentEncode`).
-/

namespace SeriesExport.Http

open Text (hexDigitUpper)

def percentByte (b : UInt8) : List Char := ['%', hexDigitUpper (b.toNat / 16), hexDigitUpper b.toNat]

/-- All bytes of a character, percent-encoded. -/
def percentChar (c : Char) : List Char := (String.utf8EncodeChar c).flatMap percentByte

def percentEncode (safe : Char → Bool) (cs : List Char) : List Char :=
  cs.flatMap fun c => if safe c then [c] else percentChar c

def isPrintable (c : Char) : Bool := ' ' < c && c < '\x7f'

def isPathSafe (c : Char) : Bool := isPrintable c && !(['"', '#', '<', '>', '?', '\x60', '\x7b', '\x7d'].contains c)

def isQuerySafe (c : Char) : Bool := isPrintable c && !(['"', '#', '<', '>', '\''].contains c)

def isFormSafe (c : Char) : Bool := c.isAlphanum || ['*', '-', '.', '_'].contains c

/-- A name or value of a form. -/
def formPart (s : String) : List Char :=
  s.toList.flatMap fun c => if c = ' ' then ['+'] else if isFormSafe c then [c] else percentChar c

/-- The pairs of a query as a form. -/
def form (query : Query) : List Char :=
  Text.join ['&'] (query.map fun (name, value) => formPart name ++ '=' :: formPart value)

/-! ## Decoding -/

/-- The bytes of a text, encoded ones decoded; a percent sign without two digits behind it stands for itself. -/
def percentDecode : List Char → List UInt8
  | [] => []
  | '%' :: a :: b :: rest =>
    match Text.hexValue? a, Text.hexValue? b with
    | some high, some low => .ofNat (16 * high + low) :: percentDecode rest
    | _, _ => String.utf8EncodeChar '%' ++ percentDecode (a :: b :: rest)
  | c :: rest => String.utf8EncodeChar c ++ percentDecode rest

/-- The text that is left when encoded bytes are decoded, if they are UTF-8. -/
def decodedText? (cs : List Char) : Option String := String.fromUTF8? ⟨(percentDecode cs).toArray⟩

example : decodedText? ['%', '4', '1', '%', '4', 'g'] = some "A%4g" ∧
    decodedText? ['%', 'c', '3', '%', 'A', '9'] = some "é" ∧ decodedText? ['%', 'f', 'f'] = none := by decide +kernel

theorem percentDecode_percentByte (b : UInt8) (rest : List Char) :
    percentDecode (percentByte b ++ rest) = b :: percentDecode rest := by
  have h : 16 * (b.toNat / 16 % 16) + b.toNat % 16 = b.toNat := by
    have := b.toNat_lt
    omega
  simp [percentByte, percentDecode, h]

theorem percentDecode_flatMap_percentByte (bytes : List UInt8) (rest : List Char) :
    percentDecode (bytes.flatMap percentByte ++ rest) = bytes ++ percentDecode rest := by
  induction bytes with
  | nil => rfl
  | cons b bytes ih => rw [List.flatMap_cons, List.append_assoc, percentDecode_percentByte, ih, List.cons_append]

theorem percentDecode_cons_of_ne {c : Char} (h : c ≠ '%') (rest : List Char) :
    percentDecode (c :: rest) = String.utf8EncodeChar c ++ percentDecode rest := by
  rw [percentDecode]
  rintro a b rest rfl
  exact absurd rfl h

/-- Decoding gives back the bytes of what was encoded, if percent signs were encoded too. -/
theorem percentDecode_percentEncode {safe : Char → Bool} (h : safe '%' = false) (cs : List Char) :
    percentDecode (percentEncode safe cs) = cs.flatMap String.utf8EncodeChar := by
  induction cs with
  | nil => rfl
  | cons c cs ih =>
    rw [percentEncode] at ih
    rw [percentEncode, List.flatMap_cons, List.flatMap_cons]
    split
    next hc =>
      have hne : c ≠ '%' := by
        rintro rfl
        simp [h] at hc
      rw [List.singleton_append, percentDecode_cons_of_ne hne, ih]
    next => rw [percentChar, percentDecode_flatMap_percentByte, ih]

end SeriesExport.Http
