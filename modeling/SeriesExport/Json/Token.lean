import SeriesExport.Json.Number

/-!
# Tokens of JSON

`tokens` cuts a text into tokens and drops the space between them. The first place where no token can be read gives
the token `bad` and ends the list, so that whoever reads the tokens meets an error exactly when he gets there.

A string is kept even if its escapes do not denote characters, as an unpaired surrogate does: its token then has no
content (`content?`). A reader that skips the string does not mind.
-/

namespace SeriesExport.Json

open Text (hexValue?)

inductive Token where
  | null
  | bool (b : Bool)
  | number (literal : NumberLiteral)
  | text (content : Option String)
  | openArray
  | closeArray
  | openObject
  | closeObject
  | comma
  | colon
  | bad
  deriving DecidableEq, Repr

/-- The four characters that may stand between tokens. -/
def isSpace (c : Char) : Bool := c = ' ' || c = '\t' || c = '\n' || c = '\r'

/-! ## Strings -/

/-- What a string is written with: a character, or the sixteen bits of a `\u` escape. -/
inductive Piece where
  | char (c : Char)
  | unit (bits : Nat)
  deriving DecidableEq, Repr

/-- The character of a one-letter escape. -/
def escaped? : Char → Option Char
  | '"' => some '"'
  | '\\' => some '\\'
  | '/' => some '/'
  | 'b' => some '\x08'
  | 'f' => some '\x0c'
  | 'n' => some '\n'
  | 'r' => some '\r'
  | 't' => some '\t'
  | _ => none

def unit? (a b c d : Char) : Option Nat := do
  some (16 * (16 * (16 * (← hexValue? a) + (← hexValue? b)) + (← hexValue? c)) + (← hexValue? d))

/-- The pieces up to the closing quote, and the number of characters up to and with it. -/
def pieces? : List Char → Option (List Piece × Nat)
  | [] => none
  | '"' :: _ => some ([], 1)
  | '\\' :: 'u' :: a :: b :: c :: d :: rest => do
    let bits ← unit? a b c d
    let (ps, n) ← pieces? rest
    some (.unit bits :: ps, n + 6)
  | '\\' :: c :: rest => do
    let c ← escaped? c
    let (ps, n) ← pieces? rest
    some (.char c :: ps, n + 2)
  | c :: rest =>
    if c < ' ' ∨ c = '\\' then none
    else do
      let (ps, n) ← pieces? rest
      some (.char c :: ps, n + 1)

def isHighSurrogate (bits : Nat) : Bool := 0xD800 ≤ bits && bits < 0xDC00

def isLowSurrogate (bits : Nat) : Bool := 0xDC00 ≤ bits && bits < 0xE000

/-- The characters that the pieces denote: two surrogates make one character, one alone makes none. -/
def content? : List Piece → Option (List Char)
  | [] => some []
  | .char c :: ps => (content? ps).map (c :: ·)
  | .unit high :: .unit low :: ps =>
    if isHighSurrogate high then
      if isLowSurrogate low then
        (content? ps).map (Char.ofNat (0x10000 + 0x400 * (high - 0xD800) + (low - 0xDC00)) :: ·)
      else none
    else if isLowSurrogate high then none
    else (content? (.unit low :: ps)).map (Char.ofNat high :: ·)
  | .unit bits :: ps =>
    if isHighSurrogate bits || isLowSurrogate bits then none else (content? ps).map (Char.ofNat bits :: ·)

/-! ## Numbers -/

/-- The digits behind a point, if there is one, and how many characters they take with it. -/
def fraction? : List Char → Option (Option (List Char) × Nat)
  | '.' :: rest =>
    match rest.takeWhile Char.isDigit with
    | [] => none
    | ds => some (some ds, ds.length + 1)
  | _ => some (none, 0)

/-- The exponent behind an `e`, if there is one, and how many characters it takes with it. -/
def exponent? : List Char → Option (Option (Bool × List Char) × Nat)
  | c :: rest =>
    if c = 'e' ∨ c = 'E' then
      let (negative, signs, rest) := match rest with
        | '-' :: rest => (true, 1, rest)
        | '+' :: rest => (false, 1, rest)
        | rest => (false, 0, rest)
      match rest.takeWhile Char.isDigit with
      | [] => none
      | ds => some (some (negative, ds), ds.length + signs + 1)
    else some (none, 0)
  | [] => some (none, 0)

/-- The literal without its minus sign, and how many characters it takes. A zero in front stands alone. -/
def literal? (negative : Bool) (cs : List Char) : Option (NumberLiteral × Nat) := do
  let whole := cs.takeWhile Char.isDigit
  if whole = [] ∨ whole.head? = some '0' ∧ whole.length ≠ 1 then none
  else
    let (fraction, n) ← fraction? (cs.drop whole.length)
    let (exponent, m) ← exponent? (cs.drop (whole.length + n))
    some (⟨negative, whole, fraction, exponent⟩, whole.length + n + m)

/-! ## The list of tokens -/

/-- The token that begins with `c`, and how many characters of what follows belong to it. -/
def lexeme? (c : Char) (rest : List Char) : Option (Token × Nat) :=
  match c with
  | '[' => some (.openArray, 0)
  | ']' => some (.closeArray, 0)
  | '{' => some (.openObject, 0)
  | '}' => some (.closeObject, 0)
  | ',' => some (.comma, 0)
  | ':' => some (.colon, 0)
  | 'n' => if rest.take 3 = ['u', 'l', 'l'] then some (.null, 3) else none
  | 't' => if rest.take 3 = ['r', 'u', 'e'] then some (.bool true, 3) else none
  | 'f' => if rest.take 4 = ['a', 'l', 's', 'e'] then some (.bool false, 4) else none
  | '"' => (pieces? rest).map fun (ps, n) => (.text ((content? ps).map String.ofList), n)
  | '-' => (literal? true rest).map fun (l, n) => (.number l, n)
  | c => if c.isDigit then (literal? false (c :: rest)).map fun (l, n) => (.number l, n - 1) else none

/-- The tokens of a text whose first `skip` characters belong to the token before. -/
def scan : Nat → List Char → List Token
  | _, [] => []
  | skip + 1, _ :: rest => scan skip rest
  | 0, c :: rest =>
    if isSpace c then scan 0 rest
    else match lexeme? c rest with
      | some (token, n) => token :: scan n rest
      | none => [.bad]

def tokens (text : String) : List Token := scan 0 text.toList

/-- Skipping is dropping. -/
theorem scan_eq_drop : ∀ (skip : Nat) (cs : List Char), scan skip cs = scan 0 (cs.drop skip)
  | 0, _ => rfl
  | _ + 1, [] => rfl
  | skip + 1, _ :: rest => by rw [scan, List.drop_succ_cons]; exact scan_eq_drop skip rest

theorem scan_space {c : Char} (h : isSpace c) (rest : List Char) : scan 0 (c :: rest) = scan 0 rest := by
  simp [scan, h]

end SeriesExport.Json
