import Mathlib.Data.List.TakeWhile
import SeriesExport.Text.Blank

/-!
# Trimmed texts

A trimmed text neither begins nor ends with a blank (`IsTrimmed`). Trimming gives such a text (`isTrimmed_trimChars`)
and leaves one as it is (`trimChars_eq_self_iff`); it leaves nothing of a text of blanks and of no other
(`trimChars_eq_nil_iff`).
-/

namespace SeriesExport.Text

variable {cs : List Char}

/-! ## Blanks in front -/

/-- What is left does not begin with a blank. -/
theorem not_isBlank_of_head?_dropBlanks {c : Char} (h : (dropBlanks cs).head? = some c) : isBlank c = false := by
  have hhead := List.head?_dropWhile_not isBlank cs
  rw [show (cs.dropWhile isBlank).head? = some c from h] at hhead
  exact hhead

theorem dropBlanks_append {blanks : List Char} (hblanks : ∀ c ∈ blanks, isBlank c = true)
    (hcs : ∀ c, cs.head? = some c → isBlank c = false) : dropBlanks (blanks ++ cs) = cs := by
  rw [dropBlanks, List.dropWhile_append_of_pos hblanks]
  cases cs with
  | nil => rfl
  | cons c cs => simp [hcs c rfl]

theorem dropBlanks_eq_self (h : ∀ c, cs.head? = some c → isBlank c = false) : dropBlanks cs = cs :=
  @dropBlanks_append cs [] nofun h

/-- A text is a run of blanks and what is left of it without them. -/
theorem exists_eq_append_dropBlanks (cs : List Char) :
    ∃ blanks, cs = blanks ++ dropBlanks cs ∧ ∀ c ∈ blanks, isBlank c = true :=
  ⟨cs.takeWhile isBlank, List.takeWhile_append_dropWhile.symm, fun _ => List.mem_takeWhile_imp⟩

/-! ## Blanks at both ends -/

/-- Neither end of the text is a blank. -/
structure IsTrimmed (cs : List Char) : Prop where
  head : ∀ c, cs.head? = some c → isBlank c = false
  last : ∀ c, cs.getLast? = some c → isBlank c = false

theorem isTrimmed_trimChars (cs : List Char) : IsTrimmed (trimChars cs) where
  head c h := by
    obtain ⟨blanks, hblanks, -⟩ := exists_eq_append_dropBlanks (dropBlanks cs).reverse
    have hfront : dropBlanks cs = trimChars cs ++ blanks.reverse := by
      rw [trimChars, ← List.reverse_append, ← hblanks, List.reverse_reverse]
    have hhead : (dropBlanks cs).head? = some c := by
      rw [hfront, List.head?_append, h]
      rfl
    exact not_isBlank_of_head?_dropBlanks hhead
  last c h := by
    rw [trimChars, List.getLast?_reverse] at h
    exact not_isBlank_of_head?_dropBlanks h

/-- Trimming adds nothing. -/
theorem mem_of_mem_trimChars {c : Char} (h : c ∈ trimChars cs) : c ∈ cs := by
  rw [trimChars, List.mem_reverse] at h
  have hfront := (List.dropWhile_sublist isBlank).mem h
  exact (List.dropWhile_sublist isBlank).mem (List.mem_reverse.mp hfront)

theorem trimChars_eq_self_iff : trimChars cs = cs ↔ IsTrimmed cs := by
  constructor
  · intro h
    rw [← h]
    exact isTrimmed_trimChars cs
  · intro h
    have hback : dropBlanks cs.reverse = cs.reverse := by
      apply dropBlanks_eq_self
      intro c hc
      rw [List.head?_reverse] at hc
      exact h.last c hc
    rw [trimChars, dropBlanks_eq_self h.head, hback, List.reverse_reverse]

theorem trimChars_eq_nil_iff : trimChars cs = [] ↔ ∀ c ∈ cs, isBlank c = true := by
  rw [trimChars, List.reverse_eq_nil_iff, dropBlanks, List.dropWhile_eq_nil_iff]
  constructor
  · intro h
    cases hdrop : dropBlanks cs with
    | nil => exact List.dropWhile_eq_nil_iff.mp hdrop
    | cons c rest =>
      have hblank := h c (by simp [hdrop])
      have hhead : (dropBlanks cs).head? = some c := congrArg List.head? hdrop
      rw [not_isBlank_of_head?_dropBlanks hhead] at hblank
      cases hblank
  · intro h c hc
    have hmem := (List.dropWhile_sublist isBlank).mem (List.mem_reverse.mp hc)
    exact h c hmem

end SeriesExport.Text
