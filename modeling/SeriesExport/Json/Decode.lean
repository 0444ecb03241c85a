import SeriesExport.Json.Basic
import SeriesExport.Json.Outline

/-!
# Decoding JSON

A decoder goes through the outline of a text once, from left to right, and the first thing that it cannot use decides
how the text is refused: `malformed` if the text is no JSON or exceeds the limits on nesting, numbers and escapes,
`mismatch` if it is JSON of another shape than is asked for.

A structure with named members is described by a `Shape`. Members that it does not know are skipped; then the grammar
is all they have to follow. A structure may also be given as an array of its members in their declared order.
-/

namespace SeriesExport.Json

/-- Why a text is refused. -/
inductive Fault where
  | malformed
  | mismatch
  deriving DecidableEq, Repr

/-- How many arrays and objects may be nested. -/
def maxDepth : Nat := 127

/-- Reads an outline inside which `room` more levels of arrays and objects may be entered. -/
abbrev Decoder (α : Type) := (room : Nat) → Outline → Except Fault α

/-- Goes on if everything up to here was well formed. -/
def require (ok : Bool) (a : α) : Except Fault α := if ok then .ok a else .error .malformed

/-- Enters an array or object. -/
def enter (room : Nat) (inside : Nat → Except Fault α) : Except Fault α :=
  match room with
  | 0 => .error .malformed
  | room + 1 => inside room

def Decoder.decode (d : Decoder α) (text : String) : Except Fault α := do
  let document := Document.ofText text
  require document.complete (← d maxDepth document.root)

/-! ## Values of any shape -/

mutual

def Outline.value (room : Nat) : Outline → Except Fault Json
  | .broken => .error .malformed
  | .null => .ok .null
  | .bool b => .ok (.bool b)
  | .number l => match l.value? with
    | some n => .ok (.number n)
    | none => .error .malformed
  | .text content => match content with
    | some s => .ok (.string s)
    | none => .error .malformed
  | .array items closed => match room with
    | 0 => .error .malformed
    | room + 1 => do require closed (.array (← values room items))
  | .object members closed => match room with
    | 0 => .error .malformed
    | room + 1 => do require closed (.object (Members.ofList (← memberValues room members)))

def values (room : Nat) : List Outline → Except Fault (List Json)
  | [] => .ok []
  | item :: items => do
    let value ← item.value room
    return value :: (← values room items)

def memberValues (room : Nat) : List (Key × Outline) → Except Fault (List (String × Json))
  | [] => .ok []
  | (key, item) :: members => match key with
    | none => .error .malformed
    | some name => do
      let value ← item.value room
      return (name, value) :: (← memberValues room members)

end

/-! ## Values of one shape -/

def Decoder.value : Decoder Json := fun room outline => outline.value room

/-- How a value is refused that has another shape than is asked for. A literal or string is looked at in full before
its shape counts, an array or object is not. -/
def Outline.refusal : Outline → Fault
  | .broken | .text none => .malformed
  | .number l => if l.value?.isSome then .mismatch else .malformed
  | _ => .mismatch

def Decoder.string : Decoder String
  | _, .text (some s) => .ok s
  | _, outline => .error outline.refusal

/-- An unsigned integer of 64 bits. -/
def Decoder.word : Decoder UInt64
  | _, .number l =>
    match l.value? with
    | some (.integer (.ofNat n)) => .ok (UInt64.ofNat n)
    | some _ => .error .mismatch
    | none => .error .malformed
  | _, outline => .error outline.refusal

/-- An object with members of any shape. -/
def Decoder.members : Decoder Members
  | room, .object ms closed => enter room fun room => do require closed (Members.ofList (← memberValues room ms))
  | _, outline => .error outline.refusal

def Decoder.nullable (d : Decoder α) : Decoder (Option α)
  | _, .null => .ok none
  | room, outline => some <$> d room outline

def Decoder.list (d : Decoder α) : Decoder (List α)
  | room, .array items closed => enter room fun room => do require closed (← items.mapM (d room))
  | _, outline => .error outline.refusal

/-! ## Structures -/

/-- A structure whose members are collected in a form: what a member does to the form, none if the structure has no
such member, and what becomes of the form in the end, none if a member is missing. -/
structure Shape (Form α : Type) where
  blank : Form
  member : (room : Nat) → (name : String) → Form → Option (Outline → Except Fault Form)
  finish : Form → Option α
  /-- the order of the members in an array, if the structure may be given as one -/
  order : Option (List String)

/-- Fills a place of a form, which must be empty. -/
def fill (place : Option β) (read : Outline → Except Fault β) (put : β → Form) : Option (Outline → Except Fault Form) :=
  some fun outline => if place.isSome then .error .mismatch else put <$> read outline

namespace Shape

variable {Form α : Type}

def readMembers (shape : Shape Form α) (room : Nat) (form : Form) : List (Key × Outline) → Except Fault Form
  | [] => .ok form
  | (none, _) :: _ => .error .malformed
  | (some name, outline) :: rest =>
    match shape.member room name form with
    | some read => do shape.readMembers room (← read outline) rest
    | none => if outline.isWellFormed then shape.readMembers room form rest else .error .malformed

/-- The members that an array is too short for stay empty; one that is too long is malformed. -/
def readItems (shape : Shape Form α) (room : Nat) (form : Form) (closed : Bool) :
    List String → List Outline → Except Fault Form
  | _, [] => require closed form
  | [], _ :: _ => .error .malformed
  | name :: names, outline :: rest =>
    match shape.member room name form with
    | some read => do shape.readItems room (← read outline) closed names rest
    | none => .error .mismatch

def close (shape : Shape Form α) (form : Form) : Except Fault α :=
  match shape.finish form with
  | some a => .ok a
  | none => .error .mismatch

def decoder (shape : Shape Form α) : Decoder α
  | room, .object ms closed => enter room fun room => do
    shape.close (← require closed (← shape.readMembers room shape.blank ms))
  | room, .array items closed =>
    match shape.order with
    | some names => enter room fun room => do shape.close (← shape.readItems room shape.blank closed names items)
    | none => .error .mismatch
  | _, outline => .error outline.refusal

end Shape

end SeriesExport.Json
