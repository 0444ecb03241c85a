import SeriesExport.Charset.Rows.Big5
import SeriesExport.Charset.Rows.Jis
import SeriesExport.Charset.Rows.Korean

/-!
# Encodings in pairs of bytes

Some encodings write ASCII with one byte and most other characters with two (`Decoder.ofPairs`). A first byte is never
ASCII, but a second one may be; if the two are no pair then a second byte that is ASCII is read for itself.
-/

namespace SeriesExport.Charset

/-- An encoding in pairs. -/
structure PairCode where
  /-- the characters that are written with one byte that is not ASCII -/
  single? : UInt8 → Option Char := fun _ => none
  isFirst : UInt8 → Bool
  pair? : Nat → Nat → Option (List Char)

namespace Decoder

/-- What comes of a byte that cannot end what is in front of it. -/
def afterFault (b : UInt8) : List Char := if isAscii b then [replacement, ascii b] else [replacement]

def ofPairs (code : PairCode) : Decoder where
  State := Option UInt8
  start := none
  step
    | none, b =>
      if isAscii b then ([ascii b], none)
      else match code.single? b with
        | some c => ([c], none)
        | none => if code.isFirst b then ([], some b) else ([replacement], none)
    | some a, b => ((code.pair? a.toNat b.toNat).getD (afterFault b), none)
  finish
    | none => []
    | some _ => [replacement]

end Decoder

/-! ## Shift JIS -/

/-- The half-wide signs of Katakana. -/
def halfWide? (b : UInt8) : Option Char :=
  if 0xA1 ≤ b ∧ b ≤ 0xDF then some (Char.ofNat (0xFF61 + (b.toNat - 0xA1))) else none

/-- Two rows of JIS X 0208 share a first byte; 20 rows behind those of the standard are for private use. -/
def shiftJisPair? (a b : Nat) : Option (List Char) :=
  let row := a - (if a < 0xA0 then 0x81 else 0xC1)
  let place := b - (if b < 0x7F then 0x40 else 0x41)
  let number := 188 * row + place
  if b < 0x40 ∨ b = 0x7F ∨ 0xFC < b then none
  else if 8836 ≤ number ∧ number < 10716 then some [Char.ofNat (0xE000 + (number - 8836))]
  else (Rows.jis0208.char? (number / 94) (number % 94)).map ([·])

def shiftJisCode : PairCode where
  single? b := if b = 0x80 then some (Char.ofNat 0x80) else halfWide? b
  isFirst b := 0x81 ≤ b && b ≤ 0x9F || 0xE0 ≤ b && b ≤ 0xFC
  pair? := shiftJisPair?

/-! ## Big5 and Korean -/

def isFirstByte (b : UInt8) : Bool := 0x81 ≤ b && b ≤ 0xFE

/-- Four pairs are a letter with two marks. -/
def big5Pair? : Nat → Nat → Option (List Char)
  | 0x88, 0x62 => some ['\u00ca', '\u0304']
  | 0x88, 0x64 => some ['\u00ca', '\u030c']
  | 0x88, 0xA3 => some ['\u00ea', '\u0304']
  | 0x88, 0xA5 => some ['\u00ea', '\u030c']
  | a, b =>
    let c := if b < 0xA1 then Rows.big5Low.char? (a - 0x81) (b - 0x40) else Rows.big5High.char? (a - 0x81) (b - 0xA1)
    if b < 0x40 then none else c.map ([·])

def big5Code : PairCode where
  isFirst := isFirstByte
  pair? := big5Pair?

def koreanPair? (a b : Nat) : Option (List Char) :=
  let c := if b < 0xA1 then Rows.koreanLow.char? (a - 0x81) (b - 0x41) else Rows.koreanHigh.char? (a - 0x81) (b - 0xA1)
  if b < 0x41 then none else c.map ([·])

def koreanCode : PairCode where
  isFirst := isFirstByte
  pair? := koreanPair?

end SeriesExport.Charset
