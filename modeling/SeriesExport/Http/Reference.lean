import SeriesExport.Http.Encoding

/-!
# References

Where something is, written in full or seen from another place: a scheme, an authority, a path, a query and a fragment,
of which all but the path may be missing (`Reference.ofText?`). Only certain characters may stand in each part; all
others have to be percent-encoded. Seen from a place that is written in full, a reference is written in full
(`Reference.resolve`), and then the dots in its path are resolved.
-/

namespace SeriesExport.Http

structure Reference where
  scheme : Option (List Char)
  authority : Option (List Char)
  path : List Char
  query : Option (List Char)
  fragment : Option (List Char)
  deriving DecidableEq, Repr

namespace Reference

/-! ## Characters -/

def isHex (c : Char) : Bool := (Text.hexValue? c).isSome

/-- Characters that stand for themselves everywhere. -/
def isPlain (c : Char) : Bool :=
  c.isAlphanum || ['-', '.', '_', '~', '!', '$', '&', '\'', '(', ')', '*', '+', ',', ';', '='].contains c

/-- Whether all characters are of a kind or percent-encoded. -/
def allOf (isGood : Char → Bool) : List Char → Bool
  | [] => true
  | '%' :: a :: b :: rest => isHex a && isHex b && allOf isGood rest
  | c :: rest => c ≠ '%' && isGood c && allOf isGood rest

def isUserChar (c : Char) : Bool := isPlain c || c = ':'

def isPathChar (c : Char) : Bool := isPlain c || c = ':' || c = '@' || c = '/'

def isQueryChar (c : Char) : Bool := isPathChar c || c = '?'

def isScheme : List Char → Bool
  | [] => false
  | c :: rest => c.isAlpha && rest.all fun c => c.isAlphanum || c = '+' || c = '-' || c = '.'

/-! ## Authorities -/

/-- At most four hexadecimal digits, which are a group of an address of 128 bits. -/
def isGroup (piece : List Char) : Bool := piece ≠ [] && piece.length ≤ 4 && piece.all isHex

/-- A number below 256 without zeros in front. -/
def isByteNumber (piece : List Char) : Bool :=
  piece ≠ [] && piece.length ≤ 3 && piece.all Char.isDigit && Text.value piece < 256 &&
    (piece.length = 1 || piece.head? ≠ some '0')

/-- How many groups the pieces between colons are; the last piece may be four numbers, which are two groups. -/
def groups? : List (List Char) → Option Nat
  | [] => some 0
  | [piece] =>
    let numbers := Text.splitOn '.' piece
    if isGroup piece then some 1 else if numbers.length = 4 && numbers.all isByteNumber then some 2 else none
  | piece :: rest => if isGroup piece then (groups? rest).map (· + 1) else none

/-- The first two colons that follow one another, and what stands before and behind them. -/
def cutGap? : List Char → Option (List Char × List Char)
  | ':' :: ':' :: rest => some ([], rest)
  | c :: rest => (cutGap? rest).map fun (front, behind) => (c :: front, behind)
  | [] => none

/-- The groups of a text, which may be empty. -/
def groupsIn? (text : List Char) : Option Nat := if text = [] then some 0 else groups? (Text.splitOn ':' text)

/-- Eight groups; two colons stand for all that are missing, and in front of them there are no numbers. -/
def isAddress6 (text : List Char) : Bool :=
  match cutGap? text with
  | none => groupsIn? text = some 8
  | some (front, behind) =>
    match groupsIn? front, groupsIn? behind with
    | some a, some b => a + b ≤ 7 && !front.contains '.'
    | _, _ => false

/-- An address of a kind that is still to come: its version and its text. -/
def isFutureAddress : List Char → Bool
  | v :: rest =>
    match Text.cut? '.' rest with
    | some (version, text) =>
      v.toLower = 'v' && version ≠ [] && version.all isHex && text ≠ [] && text.all isUserChar
    | none => false
  | [] => false

/-- A host and a port. An address that has colons stands in brackets. -/
def isPlace : List Char → Bool
  | '[' :: rest =>
    match Text.cut? ']' rest with
    | some (address, port) => (isAddress6 address || isFutureAddress address) &&
        (port = [] || port.head? = some ':' && (port.drop 1).all Char.isDigit)
    | none => false
  | place =>
    let (host, port) := (Text.cut? ':' place).getD (place, [])
    allOf isPlain host && port.all Char.isDigit

def isAuthority (text : List Char) : Bool :=
  match Text.cut? '@' text with
  | some (user, place) => allOf isUserChar user && isPlace place
  | none => isPlace text

/-! ## Reading and writing -/

/-- The text up to the first character of some, and the text from there on. -/
def splitAt (ends : List Char) (text : List Char) : List Char × List Char :=
  (text.takeWhile (!ends.contains ·), text.dropWhile (!ends.contains ·))

/-- What follows a mark at the beginning of a text. -/
def behind? (mark : Char) : List Char → Option (List Char)
  | [] => none
  | c :: rest => if c = mark then some rest else none

/-- Takes a text apart, whatever characters there are. -/
def parts (text : List Char) : Reference :=
  let (text, fragment) := splitAt ['#'] text
  let (text, query) := splitAt ['?'] text
  let (scheme, text) := match splitAt [':', '/'] text with
    | (scheme, ':' :: rest) => (some scheme, rest)
    | _ => (none, text)
  let (authority, path) := match text with
    | '/' :: '/' :: rest =>
      let (authority, path) := splitAt ['/'] rest
      (some authority, path)
    | _ => (none, text)
  ⟨scheme, authority, path, behind? '?' query, behind? '#' fragment⟩

def isValid (r : Reference) : Bool :=
  r.scheme.all isScheme && r.authority.all isAuthority && allOf isPathChar r.path && r.query.all (allOf isQueryChar) &&
    r.fragment.all (allOf isQueryChar)

def ofText? (text : List Char) : Option Reference := some (parts text) |>.filter isValid

def text (r : Reference) : List Char :=
  let marked := fun (mark : List Char) (part : Option (List Char)) => (part.map (mark ++ ·)).getD []
  (r.scheme.map (· ++ [':'])).getD [] ++ marked ['/', '/'] r.authority ++ r.path ++ marked ['?'] r.query ++
    marked ['#'] r.fragment

/-! ## Dots -/

def isSingleDot (segment : List Char) : Bool :=
  [['.'], ['%', '2', 'e']].contains (segment.map Char.toLower)

def isDoubleDot (segment : List Char) : Bool :=
  [['.', '.'], ['.', '%', '2', 'e'], ['%', '2', 'e', '.'], ['%', '2', 'e', '%', '2', 'e']].contains
    (segment.map Char.toLower)

/-- Resolves dots; `before` are the segments so far, of which two dots leave what `back` says. Segments that end with
dots end with an empty one. -/
def resolveDots (back : List (List Char) → List (List Char)) (before : List (List Char)) :
    List (List Char) → List (List Char)
  | [] => before
  | segment :: rest =>
    let before' :=
      if isDoubleDot segment then back before
      else if isSingleDot segment then before
      else before ++ [segment]
    if rest = [] ∧ (isDoubleDot segment ∨ isSingleDot segment) then before' ++ [[]]
    else resolveDots back before' rest

/-- The path without dots. What stands in front of the first slash stays, unless it is dots. -/
def withoutDots (path : List Char) : List Char :=
  match (Text.splitOn '/' path).dropWhile fun segment => isSingleDot segment || isDoubleDot segment with
  | [] => []
  | first :: rest => first ++ (resolveDots List.dropLast [] rest).flatMap ('/' :: ·)

/-! ## Resolution -/

/-- A path seen from a place: it takes the place of all behind the last slash. -/
def mergedPath (base : Reference) (path : List Char) : List Char :=
  if base.authority.isSome ∧ base.path = [] then '/' :: path
  else (base.path.reverse.dropWhile (· ≠ '/')).reverse ++ path

/-- The reference seen from a place that is written in full: what it begins with is its own, and what is in front of
that is taken from the place. -/
def resolve (base r : Reference) : Reference :=
  if r.scheme.isSome then { r with path := withoutDots r.path }
  else if r.authority.isSome then { r with scheme := base.scheme, path := withoutDots r.path }
  else if r.path = [] then { base with query := r.query.orElse fun _ => base.query, fragment := r.fragment }
  else
    let path := if r.path.head? = some '/' then r.path else base.mergedPath r.path
    { base with path := withoutDots path, query := r.query, fragment := r.fragment }

example : isAuthority "u:p@[::1.2.3.4]:80".toList ∧ isAuthority "a%41.b:".toList ∧ ¬ isAuthority "[1:2::3::4]".toList ∧
    ¬ isAuthority "a:b".toList ∧ (ofText? "a b".toList).isNone ∧ (ofText? "1:b".toList).isNone := by decide +kernel

example : ["../d", "?d", "#d", "./%2E/d/.", "//d"].map (fun r => String.ofList
    ((parts "//a/b/c?q".toList).resolve (parts r.toList)).text) =
      ["//a/d", "//a/b/c?d", "//a/b/c?q#d", "//a/b/d/", "//d"] := by decide +kernel

end Reference

end SeriesExport.Http
