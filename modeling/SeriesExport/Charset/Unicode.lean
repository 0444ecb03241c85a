import SeriesExport.Charset.Decoder

/-!
# Encodings of Unicode

UTF-8 writes a character as one to four bytes, UTF-16 as one or two units of two bytes (`utf8Decoder`, `utf16Decoder`).
In UTF-8 the first byte says how many follow, and between which bounds the second lies; the bytes in front of one that
does not fit are one replacement character, and that byte is read anew. In UTF-16 this holds of units.
-/

namespace SeriesExport.Charset

/-! ## UTF-8 -/

/-- A character of UTF-8 of which some bytes are missing. -/
structure PartOfChar where
  /-- the bits so far -/
  bits : Nat
  missing : Nat
  /-- the bounds of the next byte -/
  low : Nat := 0x80
  high : Nat := 0xBF

/-- The first byte of a character. -/
def firstOfUtf8 (b : Nat) : List Char × Option PartOfChar :=
  if b < 0x80 then ([Char.ofNat b], none)
  else if b < 0xC2 then ([replacement], none)
  else if b < 0xE0 then ([], some { bits := b - 0xC0, missing := 1 })
  else if b < 0xF0 then
    ([], some ⟨b - 0xE0, 2, if b = 0xE0 then 0xA0 else 0x80, if b = 0xED then 0x9F else 0xBF⟩)
  else if b < 0xF5 then
    ([], some ⟨b - 0xF0, 3, if b = 0xF0 then 0x90 else 0x80, if b = 0xF4 then 0x8F else 0xBF⟩)
  else ([replacement], none)

def utf8Decoder : Decoder where
  State := Option PartOfChar
  start := none
  step
    | none, b => firstOfUtf8 b.toNat
    | some p, b =>
      if p.low ≤ b.toNat ∧ b.toNat ≤ p.high then
        let bits := 64 * p.bits + (b.toNat - 0x80)
        if p.missing ≤ 1 then ([Char.ofNat bits], none) else ([], some { bits, missing := p.missing - 1 })
      else
        let (cs, s) := firstOfUtf8 b.toNat
        (replacement :: cs, s)
  finish
    | none => []
    | some _ => [replacement]

/-! ## UTF-16 -/

inductive ByteOrder where
  | little
  | big
  deriving DecidableEq, Repr

def ByteOrder.unit : ByteOrder → UInt8 → UInt8 → Nat
  | little, a, b => 256 * b.toNat + a.toNat
  | big, a, b => 256 * a.toNat + b.toNat

structure PartOfUnits where
  /-- the first byte of a unit -/
  byte : Option UInt8 := none
  /-- the first unit of a pair -/
  high : Option Nat := none

def isHighUnit (u : Nat) : Bool := 0xD800 ≤ u && u < 0xDC00

def isLowUnit (u : Nat) : Bool := 0xDC00 ≤ u && u < 0xE000

/-- A unit that does not follow the first one of a pair. -/
def firstUnit (u : Nat) : List Char × PartOfUnits :=
  if isHighUnit u then ([], { high := some u })
  else ([if isLowUnit u then replacement else Char.ofNat u], {})

def utf16Decoder (order : ByteOrder) : Decoder where
  State := PartOfUnits
  start := {}
  step s b :=
    match s.byte with
    | none => ([], { s with byte := some b })
    | some a =>
      let u := order.unit a b
      match s.high with
      | none => firstUnit u
      | some high =>
        if isLowUnit u then ([Char.ofNat (0x10000 + 1024 * (high - 0xD800) + (u - 0xDC00))], {})
        else
          let (cs, s) := firstUnit u
          (replacement :: cs, s)
  finish s := if s.byte.isSome || s.high.isSome then [replacement] else []

example : String.ofList (utf8Decoder.decode "aé€😀".toUTF8.data.toList) = "aé€😀" ∧
    utf8Decoder.decode [0xE2, 0x82, 0x41, 0xF0, 0x80, 0xED, 0xA0, 0xC3] =
      [replacement, 'A', replacement, replacement, replacement, replacement, replacement] := by decide +kernel

example : (utf16Decoder .big).decode [0, 0x61, 0xD8, 0x3D, 0xDE, 0] = ['a', '😀'] ∧
    (utf16Decoder .little).decode [0, 0xD8, 0x61, 0, 0x62] = [replacement, 'a', replacement] := by decide +kernel

end SeriesExport.Charset
