import SeriesExport.Output.Artifact

/-!
# Archives as bytes

The ZIP format with its members stored as they are. Every member is written behind a header of its own; a directory
at the end repeats the headers and says where each member begins. Numbers have their lowest byte first.
-/

namespace SeriesExport

namespace Zip

/-- The `width` lowest bytes of a number. -/
def number : Nat → Nat → List UInt8
  | 0, _ => []
  | width + 1, n => UInt8.ofNat n :: number width (n / 256)

/-- Numbers with their widths. -/
def fields (values : List (Nat × Nat)) : ByteArray :=
  ⟨(values.flatMap fun (width, n) => number width n).toArray⟩

/-! ## Checksums -/

/-- One bit of a division by the polynomial of CRC-32. -/
def crcBit (crc : UInt32) : UInt32 :=
  if crc &&& 1 = 1 then (crc >>> 1) ^^^ 0xEDB88320 else crc >>> 1

def crcByte (crc : UInt32) (b : UInt8) : UInt32 :=
  (List.range 8).foldl (fun crc _ => crcBit crc) (crc ^^^ b.toUInt32)

def crc32 (bytes : ByteArray) : UInt32 := bytes.foldl crcByte 0xFFFFFFFF ^^^ 0xFFFFFFFF

/-! ## Members -/

/-- A member as it is written. -/
structure Entry where
  name : ByteArray
  body : ByteArray

def Entry.ofMember (m : Member) : Entry := ⟨m.name.toUTF8, m.body.toUTF8⟩

/-- What both headers of a member have: version 2.0, a name in UTF-8, no compression, the first day of 1980, the
checksum and the sizes. -/
def Entry.common (e : Entry) : List (Nat × Nat) :=
  [(2, 20), (2, 0x0800), (2, 0), (2, 0), (2, 0x0021), (4, (crc32 e.body).toNat), (4, e.body.size), (4, e.body.size),
    (2, e.name.size), (2, 0)]

/-- A member with its header. -/
def Entry.bytes (e : Entry) : ByteArray := fields ((4, 0x04034b50) :: e.common) ++ e.name ++ e.body

/-- The entry of the directory for a member that begins at `offset`. -/
def Entry.directory (e : Entry) (offset : Nat) : ByteArray :=
  fields ((4, 0x02014b50) :: (2, 20) :: e.common ++ [(2, 0), (2, 0), (2, 0), (4, 0), (4, offset)]) ++ e.name

/-- The members, and the directory of where they begin. -/
def sections (entries : List Entry) : ByteArray × ByteArray :=
  entries.foldl (fun (members, directory) e => (members ++ e.bytes, directory ++ e.directory members.size))
    (ByteArray.empty, ByteArray.empty)

def encode (members : List Member) : ByteArray :=
  let (body, directory) := sections (members.map Entry.ofMember)
  body ++ directory ++ fields [(4, 0x06054b50), (2, 0), (2, 0), (2, members.length), (2, members.length),
    (4, directory.size), (4, body.size), (2, 0)]

/-- The checksum of the nine digits, which is in every description of CRC-32. -/
example : crc32 "123456789".toUTF8 = 0xCBF43926 := by decide +kernel

end Zip

/-- What is written to the disk. -/
def Content.bytes : Content → ByteArray
  | .text body => body.toUTF8
  | .archive members => Zip.encode members

end SeriesExport
