import SeriesExport.Json.Token

/-!
# The outline of a JSON text

An outline is what the grammar alone makes of a text: which arrays, objects, strings and literals it has, without
asking what numbers and escapes denote. The outline of a malformed text goes as far as the grammar does. The value that
cannot be read is `broken`, and the arrays and objects around it are not closed. A reader that goes through an outline
from left to right therefore meets the first error of the text first.

The tokens are read in one pass (`awaitValue`, `awaitKey`, `continueWith`), with a stack of the arrays and objects
that are open.
-/

namespace SeriesExport.Json

/-- The name of a member; none if its escapes do not denote characters. -/
abbrev Key := Option String

inductive Outline where
  | broken
  | null
  | bool (b : Bool)
  | number (literal : NumberLiteral)
  | text (content : Option String)
  | array (items : List Outline) (closed : Bool)
  | object (members : List (Key × Outline)) (closed : Bool)
  deriving Repr

/-- The outline of a text, and whether the text ends where the value does. -/
structure Document where
  root : Outline
  complete : Bool
  deriving Repr

/-- An open array or object with what it holds so far, the latest first. -/
inductive Frame where
  | array (before : List Outline)
  | object (before : List (Key × Outline)) (key : Key)

/-- What becomes of the open array or object when `value` is the last thing read in it. -/
def Frame.close (value : Outline) (closed : Bool) : Frame → Outline
  | .array before => .array (value :: before).reverse closed
  | .object before key => .object ((key, value) :: before).reverse closed

/-- The document that ends with `value`, nothing around it being closed. -/
def abandon (value : Outline) : List Frame → Document
  | [] => ⟨value, false⟩
  | frame :: stack => abandon (frame.close value false) stack

mutual

/-- The document whose next token begins a value. -/
def awaitValue (stack : List Frame) : List Token → Document
  | .null :: ts => continueWith .null stack ts
  | .bool b :: ts => continueWith (.bool b) stack ts
  | .number l :: ts => continueWith (.number l) stack ts
  | .text s :: ts => continueWith (.text s) stack ts
  | .openArray :: .closeArray :: ts => continueWith (.array [] true) stack ts
  | .openArray :: ts => awaitValue (.array [] :: stack) ts
  | .openObject :: .closeObject :: ts => continueWith (.object [] true) stack ts
  | .openObject :: ts => awaitKey [] stack ts
  | _ => abandon .broken stack

/-- The document whose next token is the name of a member of an object that has `before` so far. -/
def awaitKey (before : List (Key × Outline)) (stack : List Frame) : List Token → Document
  | .text key :: .colon :: ts => awaitValue (.object before key :: stack) ts
  | .text key :: _ => abandon (Frame.close .broken false (.object before key)) stack
  | _ => abandon (.object before.reverse false) stack

/-- The document that has just had `value`. -/
def continueWith (value : Outline) : List Frame → List Token → Document
  | [], ts => ⟨value, ts.isEmpty⟩
  | .array before :: stack, .comma :: ts => awaitValue (.array (value :: before) :: stack) ts
  | .array before :: stack, .closeArray :: ts => continueWith (Frame.close value true (.array before)) stack ts
  | .object before key :: stack, .comma :: ts => awaitKey ((key, value) :: before) stack ts
  | .object before key :: stack, .closeObject :: ts =>
    continueWith (Frame.close value true (.object before key)) stack ts
  | frame :: stack, _ => abandon (frame.close value false) stack

end

def Document.ofTokens (ts : List Token) : Document := awaitValue [] ts

def Document.ofText (text : String) : Document := .ofTokens (tokens text)

/-! ## Skipping -/

mutual

/-- Whether the grammar alone has nothing against the value. -/
def Outline.isWellFormed : Outline → Bool
  | .broken => false
  | .array items closed => areWellFormed items && closed
  | .object members closed => membersAreWellFormed members && closed
  | _ => true

def areWellFormed : List Outline → Bool
  | [] => true
  | item :: items => item.isWellFormed && areWellFormed items

def membersAreWellFormed : List (Key × Outline) → Bool
  | [] => true
  | (_, value) :: members => value.isWellFormed && membersAreWellFormed members

end

end SeriesExport.Json
