import SeriesExport.Json.Number

/-!
# Values of JSON

The members of an object are kept in the order of their names, each name once (`Members.insert`), so that equal
objects are equal values whatever order they were written in.
-/

namespace SeriesExport

inductive Json where
  | null
  | bool (b : Bool)
  | number (n : Json.Number)
  | string (s : String)
  | array (items : List Json)
  | object (members : List (String × Json))
  deriving Repr

namespace Json

/-- The members of an object. -/
abbrev Members := List (String × Json)

/-- Puts a member in its place; one of the same name is replaced. -/
def Members.insert (name : String) (value : Json) : Members → Members
  | [] => [(name, value)]
  | (other, old) :: rest =>
    if name < other then (name, value) :: (other, old) :: rest
    else if name = other then (name, value) :: rest
    else (other, old) :: Members.insert name value rest

/-- The members of a list in which a later one replaces an earlier one of the same name. -/
def Members.ofList (ms : List (String × Json)) : Members :=
  ms.foldl (fun members (name, value) => members.insert name value) []

def Members.get? (members : Members) (name : String) : Option Json :=
  members.lookup name

@[simp] theorem Members.ofList_nil : Members.ofList [] = [] := rfl

theorem Members.ofList_concat (ms : List (String × Json)) (name : String) (value : Json) :
    Members.ofList (ms ++ [(name, value)]) = (Members.ofList ms).insert name value := by
  simp [Members.ofList]

theorem Members.get?_insert_self (name : String) (value : Json) : ∀ members : Members,
    (members.insert name value).get? name = some value
  | [] => by simp [insert, get?]
  | (other, old) :: rest => by
    have ih := get?_insert_self name value rest
    simp only [get?] at ih ⊢
    rw [insert]
    split
    · simp
    · next h =>
      split
      · simp
      · next hne => rw [List.lookup_cons, beq_false_of_ne hne]; exact ih

theorem Members.get?_insert_of_ne {name key : String} (hne : key ≠ name) (value : Json) : ∀ members : Members,
    (members.insert name value).get? key = members.get? key
  | [] => by simp [insert, get?, List.lookup_cons, beq_false_of_ne hne]
  | (other, old) :: rest => by
    have ih := get?_insert_of_ne hne value rest
    simp only [get?] at ih ⊢
    rw [insert]
    split
    · rw [List.lookup_cons, beq_false_of_ne hne]
    · split
      · next h => subst h; simp [List.lookup_cons, beq_false_of_ne hne]
      · rw [List.lookup_cons, List.lookup_cons, ih]

/-- The text of a string, or none for any other value. -/
def string? : Json → Option String
  | .string s => some s
  | _ => none

/-- The member of an object, or none if there is no such member or the value is no object. -/
def member? (name : String) : Json → Option Json
  | .object members => Members.get? members name
  | _ => none

end Json

end SeriesExport
