import SeriesExport.Number.Binary64

/-!
# Progress

Two fractions between 0 and 1: how much of the whole export is done, and how much of the entity being fetched.
-/

namespace SeriesExport

structure Progress where
  main : Binary64 := .zero false
  sub : Binary64 := .zero false
  deriving DecidableEq, Repr

/-- A new value for one of the fractions. -/
inductive Progress.Change where
  | main (fraction : Binary64)
  | sub (fraction : Binary64)
  deriving DecidableEq, Repr

/-- A fraction out of bounds is moved to the nearer one. -/
def Progress.apply (p : Progress) : Change → Progress
  | .main x => { p with main := x.clampUnit }
  | .sub x => { p with sub := x.clampUnit }

end SeriesExport
