/-!
# Powers of two and ten

The powers that numbers in binary and decimal notation are scaled with.
-/

namespace SeriesExport

/-- `2 ^ n` -/
def twoTo (n : Nat) : Nat := Nat.pow 2 n

/-- `10 ^ n` -/
def tenTo (n : Nat) : Nat := Nat.pow 10 n

theorem twoTo_pos (n : Nat) : 0 < twoTo n := Nat.pow_pos (by decide)

end SeriesExport
