/-!
# Sessions

The token that goes with each request. When the server does not accept it, the session drops the token and counts.
-/

namespace SeriesExport

structure Session where
  token : Option String := none
  /-- how often the server has refused the session -/
  refusals : Nat := 0
  deriving DecidableEq, Repr

/-- The session after a refusal. -/
def Session.refuse (s : Session) : Session := ⟨none, s.refusals + 1⟩

end SeriesExport
