/-!
# Decoders

A decoder reads the bytes of a text one after the other. Its state is what has not come to a character yet. Whatever
the bytes are, they come to some text: what means nothing is read as the replacement character.

A table gives the characters of the bytes from 128 on; those below are ASCII (`Decoder.ofTable`).
-/

namespace SeriesExport.Charset

def replacement : Char := '\ufffd'

structure Decoder where
  State : Type
  start : State
  /-- the characters that a byte completes -/
  step : State → UInt8 → List Char × State
  /-- what is left at the end -/
  finish : State → List Char

namespace Decoder

/-- The state behind some bytes, and what they come to, the last character first. -/
def run (d : Decoder) (s : d.State) (done : List Char) : List UInt8 → List Char × d.State
  | [] => (done, s)
  | b :: rest =>
    let (cs, s) := d.step s b
    run d s (cs.reverseAux done) rest

def decode (d : Decoder) (bytes : List UInt8) : List Char :=
  let (done, s) := d.run d.start [] bytes
  done.reverse ++ d.finish s

def isAscii (b : UInt8) : Bool := b < 128

def ascii (b : UInt8) : Char := Char.ofNat b.toNat

/-- A byte is a character, by a table of 128 characters for the bytes that are not ASCII. -/
def ofTable (table : List Char) : Decoder :=
  let table := table.toArray
  { State := Unit
    start := ()
    step := fun _ b => ([if isAscii b then ascii b else table.getD (b.toNat - 128) replacement], ())
    finish := fun _ => [] }

/-- No text can be read; it is one replacement character, unless there are no bytes at all. -/
def unreadable : Decoder where
  State := Bool
  start := false
  step seen _ := (if seen then [] else [replacement], true)
  finish _ := []

end Decoder

end SeriesExport.Charset
