import SeriesExport.Charset.Pairs

/-!
# Other Japanese encodings

EUC-JP writes the rows of JIS X 0208 with two bytes, and those of JIS X 0212 with a third one in front (`eucJpDecoder`).
ISO 2022-JP writes everything with ASCII bytes; what they mean changes with sequences that begin with an escape
character (`iso2022JpDecoder`).
-/

namespace SeriesExport.Charset

/-! ## EUC-JP -/

inductive PartOfEuc where
  | nothing
  | one (a : UInt8)
  /-- a character of the supplement -/
  | supplement (a : UInt8)

def isEucByte (b : UInt8) : Bool := 0xA1 ≤ b && b ≤ 0xFE

/-- The character at the place that two bytes name. -/
def eucChar? (rows : Rows) (a b : UInt8) : Option Char :=
  if isEucByte a && isEucByte b then rows.char? (a.toNat - 0xA1) (b.toNat - 0xA1) else none

def eucJpDecoder : Decoder where
  State := PartOfEuc
  start := .nothing
  step
    | .nothing, b =>
      if Decoder.isAscii b then ([Decoder.ascii b], .nothing)
      else if b = 0x8E ∨ b = 0x8F ∨ isEucByte b then ([], .one b)
      else ([replacement], .nothing)
    | .one a, b =>
      if a = 0x8F ∧ isEucByte b then ([], .supplement b)
      else
        let c := if a = 0x8E then halfWide? b else eucChar? Rows.jis0208 a b
        ((c.map ([·])).getD (Decoder.afterFault b), .nothing)
    | .supplement a, b => (((eucChar? Rows.jis0212 a b).map ([·])).getD (Decoder.afterFault b), .nothing)
  finish
    | .nothing => []
    | _ => [replacement]

/-! ## ISO 2022-JP -/

/-- What bytes mean. -/
inductive JisMeaning where
  | ascii
  /-- ASCII with two other characters -/
  | roman
  | katakana
  /-- pairs from JIS X 0208 -/
  | kanji
  deriving DecidableEq

structure JisState where
  meaning : JisMeaning := .ascii
  /-- the first byte of a pair -/
  first : Option UInt8 := none
  /-- what has been read of an escape sequence -/
  escape : List UInt8 := []
  /-- whether something has been read since the last sequence -/
  fresh : Bool := true

/-- What bytes mean behind an escape sequence. -/
def jisEscape? : List UInt8 → Option JisMeaning
  | [0x1B, 0x28, 0x42] => some .ascii
  | [0x1B, 0x28, 0x4A] => some .roman
  | [0x1B, 0x28, 0x49] => some .katakana
  | [0x1B, 0x24, 0x40] => some .kanji
  | [0x1B, 0x24, 0x42] => some .kanji
  | _ => none

/-- A byte outside escape sequences. -/
def jisByte (s : JisState) (b : UInt8) : List Char × JisState :=
  match s.first with
  | some a =>
    let s := { s with first := none }
    if b = 0x1B then ([replacement], { s with escape := [b] })
    else
      let c := if 0x21 ≤ b ∧ b ≤ 0x7E then Rows.jis0208.char? (a.toNat - 0x21) (b.toNat - 0x21) else none
      ([c.getD replacement], s)
  | none =>
    let s' := { s with fresh := true }
    if b = 0x1B then ([], { s with escape := [b] })
    else match s.meaning with
      | .kanji => if 0x21 ≤ b ∧ b ≤ 0x7E then ([], { s' with first := some b }) else ([replacement], s')
      | .katakana =>
        if 0x21 ≤ b ∧ b ≤ 0x5F then ([Char.ofNat (0xFF61 + (b.toNat - 0x21))], s') else ([replacement], s')
      | meaning =>
        if 0x7F < b ∨ b = 0x0E ∨ b = 0x0F then ([replacement], s')
        else if meaning = .roman ∧ b = 0x5C then (['¥'], s')
        else if meaning = .roman ∧ b = 0x7E then (['‾'], s')
        else ([Decoder.ascii b], s')

/-- Bytes outside escape sequences, from the beginning of a character on. -/
def jisBytes (s : JisState) : List UInt8 → List Char × JisState
  | [] => ([], s)
  | b :: rest =>
    let (cs, s) := jisByte s b
    let (more, s) := jisBytes s rest
    (cs ++ more, s)

def iso2022JpDecoder : Decoder where
  State := JisState
  start := {}
  step s b :=
    let read := s.escape ++ [b]
    match s.escape with
    | [] => jisByte s b
    | [_] =>
      if b = 0x24 ∨ b = 0x28 then ([], { s with escape := read })
      else
        let (cs, s) := jisBytes { s with escape := [], fresh := true } [b]
        (replacement :: cs, s)
    | _ :: second =>
      match jisEscape? read with
      | some meaning => (if s.fresh then [] else [replacement], { meaning, fresh := false })
      | none =>
        let (cs, s) := jisBytes { s with escape := [], fresh := true } (second ++ [b])
        (replacement :: cs, s)
  finish s :=
    match s.escape with
    | [] => if s.first.isSome then [replacement] else []
    | _ :: second =>
      let (cs, s) := jisBytes { s with escape := [] } second
      replacement :: cs ++ if s.first.isSome then [replacement] else []

end SeriesExport.Charset
