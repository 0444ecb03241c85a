import SeriesExport.Http.Head

/-!
# Bodies in chunks

A body of unknown length is sent in chunks. In front of each stands its size in hexadecimal, on a line that may hold
extensions, which do not count; behind each stands an empty line's end. A chunk of size zero ends the body; behind it
there may be trailers, which are headers that nobody reads but which have to be headers (`readChunks`).

These lines, unlike those of a head, end with a carriage return and a line feed.
-/

namespace SeriesExport.Http

/-- What a reader of chunks expects next. -/
inductive ChunkPlace where
  /-- the first digit of a size -/
  | start
  | size
  /-- blanks behind a size -/
  | blanks
  | extension
  /-- the line feed behind a size or an extension -/
  | sizeEnd
  | data
  /-- the carriage return behind the data -/
  | dataReturn
  | dataEnd
  /-- the end of the body or a trailer -/
  | last
  | trailer
  | trailerEnd
  /-- the line feed that ends the body -/
  | finish
  | done
  deriving DecidableEq, Repr

structure ChunkReader where
  place : ChunkPlace := .start
  /-- the size of the chunk, or what is left of it -/
  left : Nat := 0
  /-- what has been read, the last byte first -/
  data : List UInt8 := []
  /-- how many characters the extensions have had -/
  extension : Nat := 0
  /-- the lines of the trailers, the last character first -/
  trailer : List Char := []
  /-- how many lines of trailers have ended -/
  trailers : Nat := 0

namespace ChunkReader

/-- The greatest number of characters in all extensions, and in all trailers. -/
def lineLimit : Nat := 16384

/-- Sizes have to fit in 64 bits. -/
def withDigit (r : ChunkReader) (digit : Nat) : Option ChunkReader :=
  let left := 16 * r.left + digit
  if left < UInt64.size then some { r with place := .size, left } else none

/-- What may stand behind a size. -/
def behindSize? (r : ChunkReader) : Char → Option ChunkReader
  | '\t' => some { r with place := .blanks }
  | ' ' => some { r with place := .blanks }
  | ';' => some { r with place := .extension }
  | '\r' => some { r with place := .sizeEnd }
  | _ => none

/-- The reader behind one more byte; none if the byte may not stand there. -/
def step (r : ChunkReader) (b : UInt8) : Option ChunkReader :=
  let c := Char.ofNat b.toNat
  match r.place with
  | .start => (Text.hexValue? c).bind { r with left := 0 }.withDigit
  | .size =>
    match Text.hexValue? c with
    | some digit => r.withDigit digit
    | none => r.behindSize? c
  | .blanks => r.behindSize? c
  | .extension =>
    if c = '\r' then some { r with place := .sizeEnd }
    else if c = '\n' then none
    else some { r with extension := r.extension + 1 }
  | .sizeEnd => if c = '\n' then some { r with place := if r.left = 0 then .last else .data } else none
  | .data => some { r with data := b :: r.data, left := r.left - 1, place := if r.left ≤ 1 then .dataReturn else .data }
  | .dataReturn => if c = '\r' then some { r with place := .dataEnd } else none
  | .dataEnd => if c = '\n' then some { r with place := .start } else none
  | .last =>
    if c = '\r' then some { r with place := .finish, trailer := if r.trailer = [] then [] else c :: r.trailer }
    else some { r with place := .trailer, trailer := c :: r.trailer }
  | .trailer => some { r with place := if c = '\r' then .trailerEnd else .trailer, trailer := c :: r.trailer }
  | .trailerEnd =>
    if c = '\n' then some { r with place := .last, trailer := c :: r.trailer, trailers := r.trailers + 1 } else none
  | .finish =>
    if c = '\n' then some { r with place := .done, trailer := if r.trailer = [] then [] else c :: r.trailer } else none
  | .done => none

/-- The trailers up to the first empty line, as they are read if they are headers. -/
def headers? (r : ChunkReader) : Option Headers :=
  let lines := (Text.splitOn '\n' r.trailer.reverse).map fun line => (withoutReturn line.reverse).reverse
  (lines.takeWhile (· ≠ [])).mapM Head.header?

/-- Whether what does not count is within its limits and written as it should be. -/
def isSound (r : ChunkReader) : Bool :=
  r.extension < lineLimit && r.trailer.length < lineLimit && r.trailers < Head.headerLimit &&
    r.headers?.any (·.length ≤ r.trailers)

end ChunkReader

/-- The data of all chunks; what follows the end does not count. -/
def readChunks (r : ChunkReader) : List UInt8 → Option (List UInt8)
  | [] => none
  | b :: rest =>
    match r.step b with
    | none => none
    | some r =>
      if r.place = .done then (if r.isSound then some r.data.reverse else none)
      else readChunks r rest

example : readChunks {} "3\r\nabc\r\n02 ;x=y\r\nde\r\n0\r\nA: b\r\n\r\nz".toUTF8.data.toList =
    some "abcde".toUTF8.data.toList := by decide +kernel

example : readChunks {} "3\r\nabc\r\n".toUTF8.data.toList = none ∧
    readChunks {} "3\nabc\r\n0\r\n\r\n".toUTF8.data.toList = none ∧
    readChunks {} "0\r\nA b\r\n\r\n".toUTF8.data.toList = none := by decide +kernel

end SeriesExport.Http
