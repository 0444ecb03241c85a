import Mathlib.Logic.Relation
import SeriesExport.Proofs.AttributeLists

/-!
# Blanks in lists of attributes

Blanks are put into a text one at a time (`Text.Widened`). Leaving all of them out undoes every such step, so that two
texts differ only in blanks just if the same is left of both (`Text.respaced_iff`). A list of attributes depends on no
more than that (`attributeNames_eq_attributeNames_iff`), and its names, joined with commas, are what is left of it
(`toList_intercalate_attributeNames`). So reading is the inverse of joining, whatever blanks stand in between
(`attributeNames_inverse`).
-/

namespace SeriesExport

/-! ## Texts that differ in blanks -/

namespace Text

variable {cs ds : List Char}

/-- One blank more, anywhere. -/
inductive Widened : List Char → List Char → Prop
  | intro (front back : List Char) {c : Char} : isBlank c = true → Widened (front ++ back) (front ++ c :: back)

/-- Any number of blanks more. -/
def Spaced : List Char → List Char → Prop := Relation.ReflTransGen Widened

/-- Any number of blanks more or fewer, one after another. -/
def Respaced : List Char → List Char → Prop := Relation.EqvGen Widened

theorem Widened.cons (c : Char) (h : Widened cs ds) : Widened (c :: cs) (c :: ds) := by
  obtain ⟨front, back, hblank⟩ := h
  exact .intro (c :: front) back hblank

theorem Widened.squeezeChars_eq (h : Widened cs ds) : squeezeChars cs = squeezeChars ds := by
  obtain ⟨front, back, hblank⟩ := h
  rw [squeezeChars_append, squeezeChars_append, squeezeChars_cons_of_isBlank hblank]

theorem Spaced.cons (c : Char) (h : Spaced cs ds) : Spaced (c :: cs) (c :: ds) :=
  Relation.ReflTransGen.lift (c :: ·) (fun _ _ => Widened.cons c) _ _ h

theorem Spaced.respaced (h : Spaced cs ds) : Respaced cs ds := Relation.EqvGen.reflTransGen_le_eqvGen _ _ _ h

/-- Every text is what is left of it, with its blanks put in. -/
theorem spaced_squeezeChars : ∀ cs, Spaced (squeezeChars cs) cs
  | [] => .refl
  | c :: cs => by
    have ih := spaced_squeezeChars cs
    cases hc : isBlank c with
    | true =>
      rw [squeezeChars_cons_of_isBlank hc]
      exact ih.tail (.intro [] cs hc)
    | false =>
      rw [squeezeChars_cons_of_not_isBlank hc]
      exact ih.cons c

/-- Texts differ only in blanks just if they are the same without any. -/
theorem respaced_iff : Respaced cs ds ↔ squeezeChars cs = squeezeChars ds := by
  constructor
  · intro h
    -- no step changes what is left
    induction h with
    | rel _ _ hstep => exact hstep.squeezeChars_eq
    | refl => rfl
    | symm _ _ _ ih => exact ih.symm
    | trans _ _ _ _ _ ih ih' => exact ih.trans ih'
  · intro h
    have hcs := (spaced_squeezeChars cs).respaced
    have hds := (spaced_squeezeChars ds).respaced
    rw [h] at hcs
    exact .trans _ _ _ (.symm _ _ hcs) hds

theorem join_eq_intercalate (sep : List Char) : ∀ pieces, join sep pieces = sep.intercalate pieces
  | [] => rfl
  | [piece] => List.intercalate_singleton.symm
  | piece :: next :: pieces => by
    rw [List.intercalate_cons_cons, ← join_eq_intercalate sep (next :: pieces)]
    rfl

end Text

/-! ## Names in a list -/

variable {list : String} {names : List String}

theorem isPlain_of_mem_attributeNames {name : String} (h : name ∈ attributeNames list) : IsPlain name := by
  rw [attributeNames_eq] at h
  split at h
  · cases h
  · exact isPlain_of_mem_namesWithin h

theorem toList_intercalate_namesWithin (name : String) :
    (",".intercalate (namesWithin name)).toList = Text.squeezeChars name.toList := by
  have hpieces : (namesWithin name).map String.toList = Text.splitOn ',' (Text.squeezeChars name.toList) := by
    simp [namesWithin, Function.comp_def]
  rw [String.toList_intercalate, hpieces, ← Text.join_eq_intercalate]
  exact Text.join_splitOn ',' _

/-- Joined again, the names are the list without its blanks. -/
theorem toList_intercalate_attributeNames (list : String) :
    (",".intercalate (attributeNames list)).toList = Text.squeezeChars list.toList := by
  rw [attributeNames_eq]
  split
  · next hnil => rw [hnil]; rfl
  · exact toList_intercalate_namesWithin list

/-- No list has one name without characters: a blank one has no names at all. -/
theorem attributeNames_ne_single_empty (list : String) : attributeNames list ≠ [""] := by
  intro h
  have hsqueezed : [] = Text.squeezeChars list.toList := by
    rw [← toList_intercalate_attributeNames, h]
    rfl
  rw [attributeNames_eq, if_pos hsqueezed.symm] at h
  cases h

/-- Lists have the same names just if they differ in blanks only. -/
theorem attributeNames_eq_attributeNames_iff {list' : String} :
    attributeNames list' = attributeNames list ↔ Text.Respaced list.toList list'.toList := by
  rw [Text.respaced_iff]
  constructor
  · intro h
    rw [← toList_intercalate_attributeNames list, ← h, toList_intercalate_attributeNames]
  · intro h
    rw [attributeNames_eq, attributeNames_eq, namesWithin, namesWithin, h]

/-- Plain names are read as they were joined, unless they are one empty name, which joins to a blank list. -/
theorem attributeNames_intercalate (hplain : ∀ name ∈ names, IsPlain name) (hne : names ≠ [""]) :
    attributeNames (",".intercalate names) = names := by
  by_cases hnames : names = []
  · subst hnames
    rfl
  have hwithin : namesWithin (",".intercalate names) = names :=
    (namesWithin_intercalate hnames).trans (flatMap_namesWithin hplain)
  rw [attributeNames_eq]
  split
  · next hnil =>
    -- a text of blanks only is read as one empty name where names stand
    rw [namesWithin, hnil] at hwithin
    exact absurd hwithin.symm hne
  · exact hwithin

/-- The names of a list are those that make it when they are joined and blanks are put in. -/
theorem attributeNames_eq_iff : attributeNames list = names ↔
    (∀ name ∈ names, IsPlain name) ∧ names ≠ [""] ∧ Text.Spaced (",".intercalate names).toList list.toList := by
  constructor
  · rintro rfl
    refine ⟨fun _ => isPlain_of_mem_attributeNames, attributeNames_ne_single_empty list, ?_⟩
    rw [toList_intercalate_attributeNames]
    exact Text.spaced_squeezeChars _
  · rintro ⟨hplain, hne, hspaced⟩
    rw [← attributeNames_intercalate hplain hne]
    exact attributeNames_eq_attributeNames_iff.mpr hspaced.respaced

/-- Reading a list of attributes is the inverse of joining names with commas. What is read has neither commas nor blanks
and joins to the list without its blanks; blanks that are put in or taken out anywhere, and no other changes, leave it
the same; and names without commas and blanks, unless they are one empty name, are what is read of just the lists that
are their join with blanks put in. -/
theorem attributeNames_inverse :
    (∀ list, (∀ name ∈ attributeNames list, IsPlain name) ∧
      ",".intercalate (attributeNames list) = String.ofList (list.toList.filter fun c => !Text.isBlank c)) ∧
    (∀ list list', attributeNames list' = attributeNames list ↔ Text.Respaced list.toList list'.toList) ∧
    ∀ names list, attributeNames list = names ↔
      (∀ name ∈ names, IsPlain name) ∧ names ≠ [""] ∧ Text.Spaced (",".intercalate names).toList list.toList := by
  refine ⟨fun list => ⟨fun _ => isPlain_of_mem_attributeNames, ?_⟩,
    fun _ _ => attributeNames_eq_attributeNames_iff, fun _ _ => attributeNames_eq_iff⟩
  rw [← String.toList_inj, String.toList_ofList]
  exact toList_intercalate_attributeNames list

/-- Two names with blanks of several kinds in and around them, and a list that has only commas. -/
theorem attributeNames_inverse_ideographic :
    Text.Spaced "name,p90".toList "\nna\u3000me ,p\u00a090".toList ∧
      attributeNames "\nna\u3000me ,p\u00a090" = ["name", "p90"] ∧
      "p90" ∈ attributeNames "\nna\u3000me ,p\u00a090" ∧ IsPlain "p90" ∧
      ",".intercalate (attributeNames " , ,") = ",," := by
  obtain ⟨hread, -, hexact⟩ := attributeNames_inverse
  have hsqueezed : "name,p90".toList = Text.squeezeChars "\nna\u3000me ,p\u00a090".toList := by decide +kernel
  have hspaced : Text.Spaced "name,p90".toList "\nna\u3000me ,p\u00a090".toList := by
    rw [hsqueezed]
    exact Text.spaced_squeezeChars _
  have hnames : attributeNames "\nna\u3000me ,p\u00a090" = ["name", "p90"] :=
    (hexact _ _).mpr ⟨by decide +kernel, by decide, hspaced⟩
  have hmem : "p90" ∈ attributeNames "\nna\u3000me ,p\u00a090" := by
    rw [hnames]
    decide
  exact ⟨hspaced, hnames, hmem, (hread _).1 "p90" hmem, (hread " , ,").2.trans (by decide +kernel)⟩

end SeriesExport
