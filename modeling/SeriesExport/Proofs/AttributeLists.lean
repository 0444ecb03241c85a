import SeriesExport.Catalog

/-!
# Lists of attributes

A comma separated list is made with commas between names and read by leaving out all blanks and cutting at the commas.
So each name is read as the names within it (`namesWithin`, `namesWithin_intercalate`): as itself just if it has
neither a comma nor a blank (`namesWithin_eq_singleton_iff`).
-/

namespace SeriesExport

/-! ## Pieces -/

namespace Text

variable {sep : Char} {cs : List Char}

theorem splitOn_cons_of_ne {c : Char} (h : c ≠ sep) {piece : List Char} {pieces : List (List Char)}
    (hcs : splitOn sep cs = piece :: pieces) : splitOn sep (c :: cs) = (c :: piece) :: pieces := by
  rw [splitOn, if_neg h, hcs]

/-- A text without separators is one piece. -/
theorem splitOn_of_not_mem : ∀ {cs : List Char}, sep ∉ cs → splitOn sep cs = [cs]
  | [], _ => rfl
  | c :: cs, h => by
    rw [List.mem_cons, not_or] at h
    exact splitOn_cons_of_ne (Ne.symm h.1) (splitOn_of_not_mem h.2)

/-- A separator cuts what is before from what is after. -/
theorem splitOn_append_cons (cs ds : List Char) : splitOn sep (cs ++ sep :: ds) = splitOn sep cs ++ splitOn sep ds := by
  induction cs with
  | nil => simp [splitOn]
  | cons c cs ih =>
    by_cases hc : c = sep
    · subst hc
      rw [List.cons_append, splitOn, if_pos rfl, ih, splitOn, if_pos rfl]
      rfl
    · obtain ⟨piece, pieces, hcs⟩ := List.exists_cons_of_ne_nil (splitOn_ne_nil sep cs)
      rw [hcs] at ih
      rw [List.cons_append, splitOn_cons_of_ne hc ih, splitOn_cons_of_ne hc hcs]
      rfl

/-- A character of a piece is one of the text, and no separator. -/
theorem mem_of_mem_splitOn : ∀ {cs piece : List Char} {c : Char}, piece ∈ splitOn sep cs → c ∈ piece →
    c ∈ cs ∧ c ≠ sep
  | [], piece, c, h, hc => by
    rw [splitOn, List.mem_singleton] at h
    exact absurd hc (by simp [h])
  | d :: cs, piece, c, h, hc => by
    have ih : ∀ {piece : List Char}, piece ∈ splitOn sep cs → c ∈ piece → c ∈ d :: cs ∧ c ≠ sep := by
      intro piece h hc
      exact (mem_of_mem_splitOn h hc).imp_left (List.mem_cons_of_mem d)
    by_cases hd : d = sep
    · rw [splitOn, if_pos hd, List.mem_cons] at h
      rcases h with rfl | h
      · exact absurd hc List.not_mem_nil
      · exact ih h hc
    · obtain ⟨first, pieces, hcs⟩ := List.exists_cons_of_ne_nil (splitOn_ne_nil sep cs)
      rw [splitOn_cons_of_ne hd hcs] at h
      rcases List.mem_cons.mp h with rfl | h
      · rcases List.mem_cons.mp hc with rfl | hc
        · exact ⟨List.mem_cons_self, hd⟩
        · exact ih (hcs ▸ List.mem_cons_self) hc
      · exact ih (hcs ▸ List.mem_cons_of_mem first h) hc

end Text

/-! ## Names -/

/-- The names that a list reads where a name stands in it. -/
def namesWithin (name : String) : List String :=
  (Text.splitOn ',' (Text.squeezeChars name.toList)).map String.ofList

/-- A name that is read as itself. -/
def IsPlain (name : String) : Prop := ∀ c ∈ name.toList, c ≠ ',' ∧ Text.isBlank c = false

instance : DecidablePred IsPlain := fun name => List.decidableBAll _ name.toList

/-- A list of names is read name by name. -/
theorem namesWithin_intercalate : ∀ {names : List String}, names ≠ [] →
    namesWithin (",".intercalate names) = names.flatMap namesWithin
  | [name], _ => by rw [String.intercalate_singleton, List.flatMap_singleton]
  | name :: next :: names, _ => by
    have ih := namesWithin_intercalate (List.cons_ne_nil next names)
    have hcomma : Text.squeezeChars ",".toList = [','] := by decide
    rw [List.flatMap_cons, ← ih, namesWithin, String.intercalate_cons_cons, String.toList_append, String.toList_append,
      Text.squeezeChars_append, Text.squeezeChars_append, hcomma, List.append_assoc]
    exact (congrArg _ (Text.splitOn_append_cons _ _)).trans List.map_append

/-- A blank list has no names; any other is read like a name. -/
theorem attributeNames_eq (list : String) :
    attributeNames list = if Text.squeezeChars list.toList = [] then [] else namesWithin list := by
  unfold attributeNames namesWithin
  split
  · next hnil => rw [if_pos hnil]
  · next hne => rw [if_neg hne]

theorem attributeNames_eq_namesWithin {list : String} (h : ∃ c ∈ list.toList, Text.isBlank c = false) :
    attributeNames list = namesWithin list := by
  obtain ⟨c, hmem, hc⟩ := h
  have hsqueezed : c ∈ Text.squeezeChars list.toList := List.mem_filter.mpr ⟨hmem, by rw [hc]; rfl⟩
  rw [attributeNames_eq, if_neg (List.ne_nil_of_mem hsqueezed)]

theorem namesWithin_of_isPlain {name : String} (h : IsPlain name) : namesWithin name = [name] := by
  have hsqueezed : Text.squeezeChars name.toList = name.toList := by
    refine List.filter_eq_self.mpr fun c hc => ?_
    rw [(h c hc).2]
    rfl
  have hcomma : ',' ∉ name.toList := fun hmem => (h ',' hmem).1 rfl
  rw [namesWithin, hsqueezed, Text.splitOn_of_not_mem hcomma, List.map_singleton, String.ofList_toList]

/-- Whatever is read is plain. -/
theorem isPlain_of_mem_namesWithin {name part : String} (h : part ∈ namesWithin name) : IsPlain part := by
  obtain ⟨piece, hpiece, rfl⟩ := List.mem_map.mp h
  intro c hc
  rw [String.toList_ofList] at hc
  obtain ⟨hmem, hcomma⟩ := Text.mem_of_mem_splitOn hpiece hc
  exact ⟨hcomma, Text.not_isBlank_of_mem_squeezeChars hmem⟩

theorem namesWithin_eq_singleton_iff {name : String} : namesWithin name = [name] ↔ IsPlain name := by
  constructor
  · intro h
    exact isPlain_of_mem_namesWithin (h ▸ List.mem_singleton_self name)
  · exact namesWithin_of_isPlain

/-- Plain names are read as they are. -/
theorem flatMap_namesWithin {names : List String} (h : ∀ name ∈ names, IsPlain name) :
    names.flatMap namesWithin = names := by
  induction names with
  | nil => rfl
  | cons name names ih =>
    rw [List.forall_mem_cons] at h
    rw [List.flatMap_cons, namesWithin_of_isPlain h.1, ih h.2, List.singleton_append]

example : namesWithin "p 90" = ["p90"] ∧ namesWithin "min, max" = ["min", "max"] := by decide +kernel

end SeriesExport
