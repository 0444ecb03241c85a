/-!
# Splitting at a separator

`splitOn` cuts a text at every separator and keeps empty pieces, so that `join` with the separator gives the text
back (`join_splitOn`). `cut?` cuts at the first one only.
-/

namespace SeriesExport.Text

/-- The pieces between separators; a text without one is a single piece. -/
def splitOn (sep : Char) : List Char → List (List Char)
  | [] => [[]]
  | c :: cs =>
    if c = sep then [] :: splitOn sep cs
    else match splitOn sep cs with
      | [] => [[c]]
      | piece :: pieces => (c :: piece) :: pieces

/-- The pieces with a separator between any two. -/
def join (sep : List Char) : List (List Char) → List Char
  | [] => []
  | [piece] => piece
  | piece :: pieces => piece ++ sep ++ join sep pieces

/-- What stands before and after the first separator, if there is one. -/
def cut? (sep : Char) (cs : List Char) : Option (List Char × List Char) :=
  match cs.dropWhile (· ≠ sep) with
  | [] => none
  | _ :: after => some (cs.takeWhile (· ≠ sep), after)

theorem splitOn_ne_nil (sep : Char) : ∀ cs, splitOn sep cs ≠ []
  | [] => by simp [splitOn]
  | c :: cs => by
    rw [splitOn]
    split
    · simp
    · split <;> simp

theorem join_cons_cons (sep : List Char) (c : Char) (piece : List Char) (pieces : List (List Char)) :
    join sep ((c :: piece) :: pieces) = c :: join sep (piece :: pieces) := by
  cases pieces <;> rfl

/-- Joining undoes splitting. -/
theorem join_splitOn (sep : Char) : ∀ cs, join [sep] (splitOn sep cs) = cs
  | [] => rfl
  | c :: cs => by
    have ih := join_splitOn sep cs
    rw [splitOn]
    split
    · next h =>
      subst h
      cases hs : splitOn c cs with
      | nil => exact absurd hs (splitOn_ne_nil c cs)
      | cons piece pieces => rw [← ih, hs]; rfl
    · cases hs : splitOn sep cs with
      | nil => exact absurd hs (splitOn_ne_nil sep cs)
      | cons piece pieces => rw [hs] at ih; simp only [join_cons_cons, ih]

end SeriesExport.Text
