import SeriesExport.Charset.Gb
import SeriesExport.Charset.Japanese
import SeriesExport.Charset.OneByte
import SeriesExport.Charset.Unicode

/-!
# Charsets and their labels

A charset says which characters the bytes of a text are (`Charset.decode`). It goes by several labels, in which upper
and lower case make no difference (`Charset.ofLabel?`). A mark at the beginning of a text that only Unicode has says
more than any label, and does not belong to the text.
-/

namespace SeriesExport

inductive Charset where
  | utf8
  | utf16 (order : Charset.ByteOrder)
  | oneByte (table : List Char)
  | shiftJis
  | eucJp
  | iso2022Jp
  | gb18030
  | big5
  | eucKr
  /-- encodings that are not read any more -/
  | unreadable
  deriving DecidableEq

namespace Charset

def decoder : Charset → Decoder
  | utf8 => utf8Decoder
  | utf16 order => utf16Decoder order
  | oneByte table => .ofTable table
  | shiftJis => .ofPairs shiftJisCode
  | eucJp => eucJpDecoder
  | iso2022Jp => iso2022JpDecoder
  | gb18030 => gb18030Decoder
  | big5 => .ofPairs big5Code
  | eucKr => .ofPairs koreanCode
  | unreadable => .unreadable

/-- The characters of a text, whose mark at the beginning may overrule the charset. -/
def decode (charset : Charset) : List UInt8 → List Char
  | 0xEF :: 0xBB :: 0xBF :: bytes => utf8.decoder.decode bytes
  | 0xFE :: 0xFF :: bytes => (utf16 .big).decoder.decode bytes
  | 0xFF :: 0xFE :: bytes => (utf16 .little).decoder.decode bytes
  | bytes => charset.decoder.decode bytes

/-! ## Labels -/

def labels : List (List String × Charset) :=
  [(["unicode-1-1-utf-8", "unicode11utf8", "unicode20utf8", "utf-8", "utf8", "x-unicode20utf8"], .utf8),
    (["csunicode", "iso-10646-ucs-2", "ucs-2", "unicode", "unicodefeff", "utf-16", "utf-16le"], .utf16 .little),
    (["unicodefffe", "utf-16be"], .utf16 .big),
    (["ansi_x3.4-1968", "ascii", "cp1252", "cp819", "csisolatin1", "ibm819", "iso-8859-1", "iso-ir-100",
        "iso8859-1", "iso88591", "iso_8859-1", "iso_8859-1:1987", "l1", "latin1", "us-ascii", "windows-1252",
        "x-cp1252"], .oneByte Table.windows1252),
    (["csisolatin2", "iso-8859-2", "iso-ir-101", "iso8859-2", "iso88592", "iso_8859-2", "iso_8859-2:1987",
        "l2", "latin2"], .oneByte Table.latin2),
    (["csisolatin3", "iso-8859-3", "iso-ir-109", "iso8859-3", "iso88593", "iso_8859-3", "iso_8859-3:1988",
        "l3", "latin3"], .oneByte Table.latin3),
    (["csisolatin4", "iso-8859-4", "iso-ir-110", "iso8859-4", "iso88594", "iso_8859-4", "iso_8859-4:1988",
        "l4", "latin4"], .oneByte Table.latin4),
    (["csisolatincyrillic", "cyrillic", "iso-8859-5", "iso-ir-144", "iso8859-5", "iso88595", "iso_8859-5",
        "iso_8859-5:1988"], .oneByte Table.cyrillic),
    (["arabic", "asmo-708", "csiso88596e", "csiso88596i", "csisolatinarabic", "ecma-114", "iso-8859-6",
        "iso-8859-6-e", "iso-8859-6-i", "iso-ir-127", "iso8859-6", "iso88596", "iso_8859-6", "iso_8859-6:1987"
        ], .oneByte Table.arabic),
    (["csisolatingreek", "ecma-118", "elot_928", "greek", "greek8", "iso-8859-7", "iso-ir-126", "iso8859-7",
        "iso88597", "iso_8859-7", "iso_8859-7:1987", "sun_eu_greek"], .oneByte Table.greek),
    (["csiso88598e", "csiso88598i", "csisolatinhebrew", "hebrew", "iso-8859-8", "iso-8859-8-e", "iso-8859-8-i",
        "iso-ir-138", "iso8859-8", "iso88598", "iso_8859-8", "iso_8859-8:1988", "logical", "visual"
        ], .oneByte Table.hebrew),
    (["cp1254", "csisolatin5", "iso-8859-9", "iso-ir-148", "iso8859-9", "iso88599", "iso_8859-9",
        "iso_8859-9:1989", "l5", "latin5", "windows-1254", "x-cp1254"], .oneByte Table.windows1254),
    (["csisolatin6", "iso-8859-10", "iso-ir-157", "iso8859-10", "iso885910", "l6", "latin6"], .oneByte Table.latin6),
    (["dos-874", "iso-8859-11", "iso8859-11", "iso885911", "tis-620", "windows-874"], .oneByte Table.thai),
    (["iso-8859-13", "iso8859-13", "iso885913"], .oneByte Table.latin7),
    (["iso-8859-14", "iso8859-14", "iso885914"], .oneByte Table.latin8),
    (["csisolatin9", "iso-8859-15", "iso8859-15", "iso885915", "iso_8859-15", "l9"], .oneByte Table.latin9),
    (["iso-8859-16"], .oneByte Table.latin10),
    (["cp1250", "windows-1250", "x-cp1250"], .oneByte Table.windows1250),
    (["cp1251", "windows-1251", "x-cp1251"], .oneByte Table.windows1251),
    (["cp1253", "windows-1253", "x-cp1253"], .oneByte Table.windows1253),
    (["cp1255", "windows-1255", "x-cp1255"], .oneByte Table.windows1255),
    (["cp1256", "windows-1256", "x-cp1256"], .oneByte Table.windows1256),
    (["cp1257", "windows-1257", "x-cp1257"], .oneByte Table.windows1257),
    (["cp1258", "windows-1258", "x-cp1258"], .oneByte Table.windows1258),
    (["866", "cp866", "csibm866", "ibm866"], .oneByte Table.ibm866),
    (["cskoi8r", "koi", "koi8", "koi8-r", "koi8_r"], .oneByte Table.koi8r),
    (["koi8-ru", "koi8-u"], .oneByte Table.koi8u),
    (["csmacintosh", "mac", "macintosh", "x-mac-roman"], .oneByte Table.macRoman),
    (["x-mac-cyrillic", "x-mac-ukrainian"], .oneByte Table.macCyrillic),
    (["x-user-defined"], .oneByte Table.userDefined),
    (["csshiftjis", "ms932", "ms_kanji", "shift-jis", "shift_jis", "sjis", "windows-31j", "x-sjis"], .shiftJis),
    (["cseucpkdfmtjapanese", "euc-jp", "x-euc-jp"], .eucJp),
    (["csiso2022jp", "iso-2022-jp"], .iso2022Jp),
    (["chinese", "csgb2312", "csiso58gb231280", "gb18030", "gb2312", "gb_2312", "gb_2312-80", "gbk",
        "iso-ir-58", "x-gbk"], .gb18030),
    (["big5", "big5-hkscs", "cn-big5", "csbig5", "x-x-big5"], .big5),
    (["cseuckr", "csksc56011987", "euc-kr", "iso-ir-149", "korean", "ks_c_5601-1987", "ks_c_5601-1989",
        "ksc5601", "ksc_5601", "windows-949"], .eucKr),
    (["csiso2022kr", "hz-gb-2312", "iso-2022-cn", "iso-2022-cn-ext", "iso-2022-kr", "replacement"], .unreadable)]

/-- The charset of a label, without the blanks around it. -/
def ofLabel? (label : String) : Option Charset :=
  let isSpace := fun c : Char => [' ', '\t', '\n', '\x0c', '\r'].contains c
  let name := (label.toList.dropWhile isSpace).reverse.dropWhile isSpace
  let name := String.ofList (name.reverse.map Char.toLower)
  (labels.find? fun (names, _) => names.contains name).map fun (_, charset) => charset

end Charset

end SeriesExport
