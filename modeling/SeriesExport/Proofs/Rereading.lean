import SeriesExport.Proofs.Denotation
import SeriesExport.Proofs.Printing

/-!
# What is printed is read again

A value that is read from an outline, and has no numbers but integers, has an outline of its own, that of its text. It
denotes the value, and is no deeper than the one that was read (`Denotes.outline`). For this the members of an object
stand in the order of their names, each once: they are put in their places again (`Members.ofList_of_ordered`).
-/

namespace SeriesExport.Json

open Text (digits)

/-! ## Integers -/

theorem real?_ne_integer {l : NumberLiteral} {i : Int} : l.real? ≠ some (.integer i) := by
  intro h
  obtain ⟨x, -, hx⟩ := Option.map_eq_some_iff.mp h
  cases hx

/-- The integers that literals denote are those of 64 bits, signed or unsigned. -/
theorem integer_bounds {l : NumberLiteral} {i : Int} (h : l.value? = some (.integer i)) :
    -9223372036854775808 ≤ i ∧ i ≤ maxWord := by
  unfold NumberLiteral.value? at h
  dsimp only at h
  split at h
  · exact absurd h real?_ne_integer
  split at h
  · split at h
    · next hn =>
      cases h
      omega
    · exact absurd h real?_ne_integer
  · split at h
    · next hn =>
      cases h
      omega
    · exact absurd h real?_ne_integer

/-- An integer of 64 bits is what its literal denotes. -/
theorem value?_literal {i : Int} (hlow : -9223372036854775808 ≤ i) (hhigh : i ≤ maxWord) :
    (Number.integer i).literal.value? = some (.integer i) := by
  unfold NumberLiteral.value?
  simp only [Number.literal, Option.isSome_none, Bool.false_eq_true, or_self, if_false, Text.value_digits,
    decide_eq_true_eq]
  split
  · rw [if_pos (by omega), Int.ofNat_natAbs_of_nonpos (by omega), Int.neg_neg]
  · rw [if_pos (by omega), Int.natAbs_of_nonneg (by omega)]

/-! ## Members -/

theorem Members.mem_of_mem_insert {name : String} {value : Json} {m : String × Json} : ∀ {members : Members},
    m ∈ members.insert name value → m = (name, value) ∨ m ∈ members
  | [], h => .inl (List.mem_singleton.mp h)
  | (other, old) :: rest, h => by
    unfold Members.insert at h
    split at h
    · exact List.mem_cons.mp h
    split at h
    · exact (List.mem_cons.mp h).imp_right fun h => List.mem_cons_of_mem _ h
    · rcases List.mem_cons.mp h with rfl | h
      · exact .inr List.mem_cons_self
      · exact (mem_of_mem_insert h).imp_right fun h => List.mem_cons_of_mem _ h

theorem Members.mem_of_mem_ofList {m : String × Json} {ms : List (String × Json)} (h : m ∈ Members.ofList ms) :
    m ∈ ms := by
  induction ms using List.reverseRecOn with
  | nil => cases h
  | append_singleton ms last ih =>
    rw [ofList_concat] at h
    rcases mem_of_mem_insert h with rfl | h
    · exact List.mem_append_right _ (List.mem_singleton_self _)
    · exact List.mem_append_left _ (ih h)

theorem Members.insert_of_forall_lt {name : String} (value : Json) : ∀ {members : Members},
    (∀ m ∈ members, m.1 < name) → members.insert name value = members ++ [(name, value)]
  | [], _ => rfl
  | (other, old) :: rest, h => by
    obtain ⟨hother, hrest⟩ := List.forall_mem_cons.mp h
    rw [insert, if_neg (String.lt_asymm hother), if_neg (String.ne_of_lt hother).symm, insert_of_forall_lt value hrest,
      List.cons_append]

/-- Members in the order of their names are in their places. -/
theorem Members.ofList_of_ordered {ms : Members} (h : ms.Ordered) : Members.ofList ms = ms := by
  unfold Ordered at h
  induction ms using List.reverseRecOn with
  | nil => rfl
  | append_singleton ms m ih =>
    rw [List.map_append, List.pairwise_append] at h
    rw [ofList_concat, ih h.1]
    refine insert_of_forall_lt m.2 fun other hother => ?_
    exact h.2.2 _ (List.mem_map_of_mem hother) _ (List.mem_singleton_self _)

/-! ## Outlines of values -/

theorem outlines_eq_map (items : List Json) : outlines items = items.map outline := by
  induction items with
  | nil => rfl
  | cons item items ih => rw [outlines, ih, List.map_cons]

theorem memberOutlines_eq_map (members : List (String × Json)) :
    memberOutlines members = members.map fun m => (some m.1, m.2.outline) := by
  induction members with
  | nil => rfl
  | cons member members ih =>
    obtain ⟨name, value⟩ := member
    rw [memberOutlines, ih, List.map_cons]

theorem denotesItems_outlines : ∀ {items : List Json}, (∀ v ∈ items, Denotes v.outline v) →
    DenotesItems (outlines items) items
  | [], _ => .nil
  | _ :: _, h => .cons (h _ List.mem_cons_self) (denotesItems_outlines fun v hv => h v (List.mem_cons_of_mem _ hv))

theorem denotesMembers_outlines : ∀ {members : List (String × Json)}, (∀ m ∈ members, Denotes m.2.outline m.2) →
    DenotesMembers (memberOutlines members) members
  | [], _ => .nil
  | _ :: _, h => .cons (h _ List.mem_cons_self) (denotesMembers_outlines fun v hv => h v (List.mem_cons_of_mem _ hv))

theorem denotes_negativeZero : Denotes (outline (.number (.real (.zero true)))) (.number (.real (.zero true))) :=
  .number (by decide +kernel)

mutual

theorem Denotes.outline {o : Outline} {v : Json} (h : Denotes o v) (hv : v.Integral) :
    Denotes v.outline v ∧ v.outline.depth ≤ o.depth := by
  match h with
  | .null => exact ⟨.null, Nat.zero_le _⟩
  | .bool b => exact ⟨.bool b, Nat.zero_le _⟩
  | .number hn =>
    cases hv with
    | integer i => exact ⟨.number (value?_literal (integer_bounds hn).1 (integer_bounds hn).2), Nat.zero_le _⟩
    | negativeZero => exact ⟨denotes_negativeZero, Nat.zero_le _⟩
  | .string s => exact ⟨.string s, Nat.zero_le _⟩
  | @Denotes.array items vs hitems =>
    cases hv with
    | array hvs =>
      refine ⟨.array (denotesItems_outlines fun v hv => (hitems.outlines v hv (hvs v hv)).1), ?_⟩
      rw [Json.outline, Outline.depth, Outline.depth, outlines_eq_map, Nat.add_le_add_iff_right, itemsDepth_le_iff,
        List.forall_mem_map]
      exact fun v hv => (hitems.outlines v hv (hvs v hv)).2
  | @Denotes.object members vs hmembers =>
    cases hv with
    | object hvs =>
      have hreread (m : String × Json) (hm : m ∈ Members.ofList vs) :=
        hmembers.outlines m (Members.mem_of_mem_ofList hm) (hvs m hm)
      constructor
      · have hobject := Denotes.object (denotesMembers_outlines fun m hm => (hreread m hm).1)
        rwa [Members.ofList_of_ordered (Members.ordered_ofList vs)] at hobject
      · rw [Json.outline, Outline.depth, Outline.depth, memberOutlines_eq_map, Nat.add_le_add_iff_right,
          membersDepth_le_iff, List.forall_mem_map]
        exact fun m hm => (hreread m hm).2

theorem DenotesItems.outlines {items : List Outline} {vs : List Json} (h : DenotesItems items vs) :
    ∀ v ∈ vs, v.Integral → Denotes v.outline v ∧ v.outline.depth ≤ itemsDepth items := by
  match h with
  | .nil => nofun
  | .cons hitem hitems =>
    intro v hmem hv
    rw [itemsDepth]
    rcases List.mem_cons.mp hmem with rfl | hmem
    · exact (hitem.outline hv).imp_right fun h => h.trans (Nat.le_max_left _ _)
    · exact (hitems.outlines v hmem hv).imp_right fun h => h.trans (Nat.le_max_right _ _)

theorem DenotesMembers.outlines {members : List (Key × Outline)} {vs : List (String × Json)}
    (h : DenotesMembers members vs) :
    ∀ m ∈ vs, m.2.Integral → Denotes m.2.outline m.2 ∧ m.2.outline.depth ≤ membersDepth members := by
  match h with
  | .nil => nofun
  | .cons hvalue hmembers =>
    intro m hmem hm
    rw [membersDepth]
    rcases List.mem_cons.mp hmem with rfl | hmem
    · exact (hvalue.outline hm).imp_right fun h => h.trans (Nat.le_max_left _ _)
    · exact (hmembers.outlines m hmem hm).imp_right fun h => h.trans (Nat.le_max_right _ _)

end

end SeriesExport.Json
