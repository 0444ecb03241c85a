/-!
# Blank characters

`isBlank` is the Unicode property `White_Space`. Texts are trimmed of blanks at both ends (`trimChars`), skipped over
leading ones (`dropBlanks`) or freed of all of them (`squeezeChars`).
-/

namespace SeriesExport.Text

/-- The ranges of the Unicode property `White_Space`, first and last code point of each. -/
def blankRanges : List (Nat × Nat) :=
  [(0x09, 0x0D), (0x20, 0x20), (0x85, 0x85), (0xA0, 0xA0), (0x1680, 0x1680), (0x2000, 0x200A), (0x2028, 0x2029),
    (0x202F, 0x202F), (0x205F, 0x205F), (0x3000, 0x3000)]

def isBlank (c : Char) : Bool :=
  blankRanges.any fun (first, last) => first ≤ c.toNat && c.toNat ≤ last

def dropBlanks (cs : List Char) : List Char :=
  cs.dropWhile isBlank

/-- Without the blanks at both ends; those at the end are leading ones of the reverse. -/
def trimChars (cs : List Char) : List Char :=
  (dropBlanks (dropBlanks cs).reverse).reverse

def squeezeChars (cs : List Char) : List Char :=
  cs.filter fun c => !isBlank c

theorem not_isBlank_of_mem_squeezeChars {cs : List Char} {c : Char} (h : c ∈ squeezeChars cs) : isBlank c = false := by
  simpa using (List.mem_filter.mp h).2

theorem squeezeChars_cons_of_isBlank {cs : List Char} {c : Char} (h : isBlank c = true) :
    squeezeChars (c :: cs) = squeezeChars cs :=
  List.filter_cons_of_neg (by simp [h])

theorem squeezeChars_cons_of_not_isBlank {cs : List Char} {c : Char} (h : isBlank c = false) :
    squeezeChars (c :: cs) = c :: squeezeChars cs :=
  List.filter_cons_of_pos (by simp [h])

theorem squeezeChars_append (cs ds : List Char) : squeezeChars (cs ++ ds) = squeezeChars cs ++ squeezeChars ds :=
  List.filter_append ..

/-- The two ranges of blanks that every text meets, and two that only some do. -/
example : isBlank ' ' ∧ isBlank '\t' ∧ isBlank '\u00a0' ∧ isBlank '\u3000' ∧ ¬ isBlank '\u200b' := by decide

end SeriesExport.Text
