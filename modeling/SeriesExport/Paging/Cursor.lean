import SeriesExport.Number.Binary64

/-!
# Cursors

A list on the server is read page by page. The cursor knows the number of the page, counted from 1, the size of a page
and the total that the server reported last. There are more pages as long as the total exceeds what the pages so far
can hold. A product above 64 bits counts as the largest number of 64 bits, which no total exceeds, so this is the
comparison in exact arithmetic (`hasMore_iff`).
-/

namespace SeriesExport

structure Cursor where
  page : UInt64 := 1
  perPage : UInt64
  total : Option UInt64 := none
  deriving DecidableEq, Repr

namespace Cursor

/-- How many items all pages up to this one can hold, at most the largest number of 64 bits. -/
def covered (c : Cursor) : UInt64 := UInt64.ofNat (min (c.page.toNat * c.perPage.toNat) (UInt64.size - 1))

theorem toNat_covered (c : Cursor) : c.covered.toNat = min (c.page.toNat * c.perPage.toNat) (UInt64.size - 1) := by
  have : UInt64.size = 18446744073709551616 := rfl
  rw [covered, UInt64.toNat_ofNat']
  omega

def hasMore (c : Cursor) : Bool :=
  match c.total with
  | some total => c.covered < total
  | none => false

/-- More pages follow iff the total exceeds the product of page number and page size. -/
theorem hasMore_iff (c : Cursor) :
    c.hasMore ↔ ∃ total, c.total = some total ∧ c.page.toNat * c.perPage.toNat < total.toNat := by
  unfold hasMore
  cases h : c.total with
  | none => simp
  | some total =>
    have := total.toNat_lt_size
    simp only [UInt64.lt_iff_toNat_lt, toNat_covered, decide_eq_true_eq, Option.some.injEq, exists_eq_left']
    omega

def advance (c : Cursor) : Cursor := { c with page := c.page + 1 }

/-- The cursor of the page to ask for next, if there is one. The last page number of 64 bits has no successor. -/
def next? (c : Cursor) : Option { d : Cursor // c.page < d.page } :=
  if h : c.hasMore ∧ c.page < c.page + 1 then some ⟨c.advance, h.2⟩ else none

section

variable {c : Cursor}

/-- No total exceeds the largest number of 64 bits, so a page that is not the last has a successor of 64 bits. -/
theorem toNat_page_advance (hsize : c.perPage ≠ 0) (hmore : c.hasMore) : c.advance.page.toNat = c.page.toNat + 1 := by
  obtain ⟨total, -, hcovered⟩ := (hasMore_iff c).mp hmore
  have htotal : total.toNat < 2 ^ 64 := total.toNat_lt
  have hpos : 0 < c.perPage.toNat := Nat.pos_of_ne_zero fun h => hsize (UInt64.toNat_inj.mp h)
  have hpage : c.page.toNat ≤ c.page.toNat * c.perPage.toNat := Nat.le_mul_of_pos_right _ hpos
  show (c.page + 1).toNat = _
  rw [UInt64.toNat_add, UInt64.toNat_one, Nat.mod_eq_of_lt (by omega)]

theorem next?_of_hasMore (hsize : c.perPage ≠ 0) (hmore : c.hasMore) : ∃ h, c.next? = some ⟨c.advance, h⟩ := by
  have hpage : c.page < c.page + 1 := by
    rw [UInt64.lt_iff_toNat_lt]
    exact (toNat_page_advance hsize hmore).symm ▸ Nat.lt_succ_self c.page.toNat
  exact ⟨hpage, dif_pos ⟨hmore, hpage⟩⟩

theorem next?_of_not_hasMore (hlast : ¬c.hasMore) : c.next? = none :=
  dif_neg fun h => hlast h.1

end

/-- The part of the total that the pages up to this one cover: all of it if the total is zero. -/
def fraction (c : Cursor) : Binary64 :=
  match c.total with
  | none => .zero false
  | some 0 => .ofNat 1
  | some total =>
    let quotient := (Binary64.ofNat c.covered.toNat).div (.ofNat total.toNat)
    if (Binary64.ofNat 1).less quotient then .ofNat 1 else quotient

end Cursor

end SeriesExport
