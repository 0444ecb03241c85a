import SeriesExport.Charset.Pairs
import SeriesExport.Charset.Rows.Gb

/-!
# GB 18030

The Chinese standard writes ASCII with one byte, most characters with two, and all others with four, of which the second
and the fourth are digits (`gb18030Decoder`). When four bytes turn out to be none, the first is a replacement character
and the others are read anew.
-/

namespace SeriesExport.Charset

def gbPair? (a b : Nat) : Option Char :=
  match Rows.gbPrivate.find? fun (first, last, _) => first ≤ 256 * a + b && 256 * a + b ≤ last with
  | some (first, _, c) => some (Char.ofNat (c + (256 * a + b - first)))
  | none =>
    if b < 0x40 ∨ b = 0x7F then none
    else if b < 0xA1 then Rows.gbLow.char? (a - 0x81) (b - (if b < 0x7F then 0x40 else 0x41))
    else Rows.gbHigh.char? (a - 0x81) (b - 0xA1)

/-- The number of four bytes among all that could be written. -/
def gbNumber (a b c d : Nat) : Nat := ((10 * (a - 0x81) + (b - 0x30)) * 126 + (c - 0x81)) * 10 + (d - 0x30)

/-- Characters beyond the first 65536 follow one another without gaps. -/
def gbFour? (number : Nat) : Option Char :=
  if 189000 ≤ number then (if number < 1237576 then some (Char.ofNat (0x10000 + (number - 189000))) else none)
  else if 39419 < number then none
  else (Rows.gbRanges.reverse.find? fun (first, _) => first ≤ number).map fun (first, c) =>
    Char.ofNat (c + (number - first))

/-- What has been read of a character. -/
inductive PartOfGb where
  | nothing
  | one (a : UInt8)
  | two (a b : UInt8)
  | three (a b c : UInt8)

def isDigitByte (b : UInt8) : Bool := 0x30 ≤ b && b ≤ 0x39

def gbFirst (b : UInt8) : List Char × PartOfGb :=
  if Decoder.isAscii b then ([Decoder.ascii b], .nothing)
  else if b = 0x80 then (['€'], .nothing)
  else if isFirstByte b then ([], .one b)
  else ([replacement], .nothing)

def gbSecond (a b : UInt8) : List Char × PartOfGb :=
  if isDigitByte b then ([], .two a b)
  else match gbPair? a.toNat b.toNat with
    | some c => ([c], .nothing)
    | none => (Decoder.afterFault b, .nothing)

def gb18030Decoder : Decoder where
  State := PartOfGb
  start := .nothing
  step
    | .nothing, b => gbFirst b
    | .one a, b => gbSecond a b
    | .two a b, c =>
      if isFirstByte c then ([], .three a b c)
      else
        let (cs, s) := gbFirst c
        (replacement :: Decoder.ascii b :: cs, s)
    | .three a b c, d =>
      if isDigitByte d then
        ([(gbFour? (gbNumber a.toNat b.toNat c.toNat d.toNat)).getD replacement], .nothing)
      else
        let (cs, s) := gbSecond c d
        (replacement :: Decoder.ascii b :: cs, s)
  finish
    | .nothing => []
    | _ => [replacement]

end SeriesExport.Charset
