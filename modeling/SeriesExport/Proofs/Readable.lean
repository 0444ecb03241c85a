import SeriesExport.Proofs.Documents
import SeriesExport.Proofs.Grammar

/-!
# Outlines that have a value

Three limits stand between the grammar and a value: on how deep arrays and objects are nested (`Outline.depth`), on the
size of numbers and on the escapes of strings (`Token.denotes`). An outline has a value just if the grammar has nothing
against it and it is within these limits (`exists_value_iff`).

The value of a member is that of the last one of its name (`get?_ofList_memberValues`).
-/

namespace SeriesExport.Json

/-! ## Limits -/

/-- Whether the token is a number that is not too large, or a string whose escapes denote characters, or neither a
number nor a string. -/
def Token.denotes : Token → Bool
  | .number l => l.value?.isSome
  | .text content => content.isSome
  | _ => true

mutual

/-- How many arrays and objects are nested in each other. -/
def Outline.depth : Outline → Nat
  | .array items _ => itemsDepth items + 1
  | .object members _ => membersDepth members + 1
  | _ => 0

def itemsDepth : List Outline → Nat
  | [] => 0
  | item :: items => max item.depth (itemsDepth items)

def membersDepth : List (Key × Outline) → Nat
  | [] => 0
  | (_, value) :: members => max value.depth (membersDepth members)

end

/-- The outline is well formed and within the limits, of which the one on nesting is `room`. -/
structure Outline.Readable (room : Nat) (o : Outline) : Prop where
  wellFormed : o.isWellFormed = true
  depth_le : o.depth ≤ room
  denotes : ∀ t ∈ o.tokens, t.denotes = true

theorem itemsDepth_le_iff {room : Nat} : ∀ {items : List Outline},
    itemsDepth items ≤ room ↔ ∀ item ∈ items, item.depth ≤ room
  | [] => by simp [itemsDepth]
  | item :: items => by rw [itemsDepth, Nat.max_le, itemsDepth_le_iff, List.forall_mem_cons]

theorem membersDepth_le_iff {room : Nat} : ∀ {members : List (Key × Outline)},
    membersDepth members ≤ room ↔ ∀ m ∈ members, m.2.depth ≤ room
  | [] => by simp [membersDepth]
  | (_, value) :: members => by rw [membersDepth, Nat.max_le, membersDepth_le_iff, List.forall_mem_cons]

theorem denotes_itemTokens_iff {items : List Outline} :
    (∀ t ∈ itemTokens items, t.denotes = true) ↔ ∀ item ∈ items, ∀ t ∈ item.tokens, t.denotes = true := by
  induction items with
  | nil => simp [itemTokens]
  | cons item items ih =>
    cases items with
    | nil => simp [itemTokens]
    | cons next items =>
      rw [itemTokens, List.forall_mem_append, List.forall_mem_cons, ih, List.forall_mem_cons]
      simp [Token.denotes]

theorem denotes_memberTokens_iff {members : List (Key × Outline)} :
    (∀ t ∈ memberTokens members, t.denotes = true) ↔
      ∀ m ∈ members, m.1.isSome = true ∧ ∀ t ∈ m.2.tokens, t.denotes = true := by
  induction members with
  | nil => simp [memberTokens]
  | cons member members ih =>
    obtain ⟨key, value⟩ := member
    cases members with
    | nil => simp [memberTokens, Token.denotes]
    | cons next members =>
      rw [memberTokens, List.forall_mem_cons, List.forall_mem_cons, List.forall_mem_append, List.forall_mem_cons,
        ih, List.forall_mem_cons]
      simp [Token.denotes, and_assoc]

section

variable {room : Nat} {items : List Outline} {members : List (Key × Outline)} {closed : Bool}

theorem readable_array_iff :
    (Outline.array items closed).Readable (room + 1) ↔ (∀ item ∈ items, item.Readable room) ∧ closed = true := by
  constructor
  · rintro ⟨hwf, hdepth, htokens⟩
    rw [Outline.isWellFormed, Bool.and_eq_true, areWellFormed_iff] at hwf
    rw [Outline.depth, Nat.add_le_add_iff_right, itemsDepth_le_iff] at hdepth
    rw [Outline.tokens, List.forall_mem_cons, List.forall_mem_append, denotes_itemTokens_iff] at htokens
    exact ⟨fun item hitem => ⟨hwf.1 item hitem, hdepth item hitem, htokens.2.1 item hitem⟩, hwf.2⟩
  · rintro ⟨hitems, rfl⟩
    refine ⟨?_, ?_, ?_⟩
    · rw [Outline.isWellFormed, Bool.and_true, areWellFormed_iff]
      exact fun item hitem => (hitems item hitem).wellFormed
    · rw [Outline.depth, Nat.add_le_add_iff_right, itemsDepth_le_iff]
      exact fun item hitem => (hitems item hitem).depth_le
    · rw [Outline.tokens, List.forall_mem_cons, List.forall_mem_append, denotes_itemTokens_iff]
      exact ⟨rfl, fun item hitem => (hitems item hitem).denotes, by simp [Token.denotes]⟩

theorem readable_object_iff :
    (Outline.object members closed).Readable (room + 1) ↔
      (∀ m ∈ members, m.1.isSome = true ∧ m.2.Readable room) ∧ closed = true := by
  constructor
  · rintro ⟨hwf, hdepth, htokens⟩
    rw [Outline.isWellFormed, Bool.and_eq_true, membersAreWellFormed_iff] at hwf
    rw [Outline.depth, Nat.add_le_add_iff_right, membersDepth_le_iff] at hdepth
    rw [Outline.tokens, List.forall_mem_cons, List.forall_mem_append, denotes_memberTokens_iff] at htokens
    exact ⟨fun m hm => ⟨(htokens.2.1 m hm).1, hwf.1 m hm, hdepth m hm, (htokens.2.1 m hm).2⟩, hwf.2⟩
  · rintro ⟨hmembers, rfl⟩
    refine ⟨?_, ?_, ?_⟩
    · rw [Outline.isWellFormed, Bool.and_true, membersAreWellFormed_iff]
      exact fun m hm => (hmembers m hm).2.wellFormed
    · rw [Outline.depth, Nat.add_le_add_iff_right, membersDepth_le_iff]
      exact fun m hm => (hmembers m hm).2.depth_le
    · rw [Outline.tokens, List.forall_mem_cons, List.forall_mem_append, denotes_memberTokens_iff]
      exact ⟨rfl, fun m hm => ⟨(hmembers m hm).1, (hmembers m hm).2.denotes⟩, by simp [Token.denotes]⟩

end

theorem not_readable_zero_array {items : List Outline} {closed : Bool} : ¬(Outline.array items closed).Readable 0 :=
  fun h => absurd h.depth_le (by simp [Outline.depth])

theorem not_readable_zero_object {members : List (Key × Outline)} {closed : Bool} :
    ¬(Outline.object members closed).Readable 0 :=
  fun h => absurd h.depth_le (by simp [Outline.depth])

/-! ## Values -/

theorem require_bind_eq_ok {α β : Type} {x : Except Fault α} {closed : Bool} {f : α → β} {b : β} :
    (do require closed (f (← x))) = .ok b ↔ ∃ a, x = .ok a ∧ closed = true ∧ f a = b := by
  simp only [Result.bind_eq_ok, require_eq_ok_iff]

theorem value_array_eq_ok_iff {room : Nat} {items : List Outline} {closed : Bool} {v : Json} :
    (Outline.array items closed).value (room + 1) = .ok v ↔
      ∃ vs, values room items = .ok vs ∧ closed = true ∧ .array vs = v := by
  rw [Outline.value, require_bind_eq_ok]

theorem value_object_eq_ok_iff {room : Nat} {members : List (Key × Outline)} {closed : Bool} {v : Json} :
    (Outline.object members closed).value (room + 1) = .ok v ↔
      ∃ vs, memberValues room members = .ok vs ∧ closed = true ∧ .object (Members.ofList vs) = v := by
  rw [Outline.value, require_bind_eq_ok]

theorem values_cons_eq_ok_iff {room : Nat} {item : Outline} {items : List Outline} {vs : List Json} :
    values room (item :: items) = .ok vs ↔
      ∃ v rest, item.value room = .ok v ∧ values room items = .ok rest ∧ vs = v :: rest := by
  rw [values, Result.bind_eq_ok]
  constructor
  · rintro ⟨v, hv, h⟩
    obtain ⟨rest, hrest, h⟩ := Result.bind_eq_ok.mp h
    exact ⟨v, rest, hv, hrest, (Except.ok.inj h).symm⟩
  · rintro ⟨v, rest, hv, hrest, rfl⟩
    exact ⟨v, hv, Result.bind_eq_ok.mpr ⟨rest, hrest, rfl⟩⟩

theorem memberValues_cons_eq_ok_iff {room : Nat} {name : String} {value : Outline} {members : List (Key × Outline)}
    {vs : List (String × Json)} : memberValues room ((some name, value) :: members) = .ok vs ↔
      ∃ v rest, value.value room = .ok v ∧ memberValues room members = .ok rest ∧ vs = (name, v) :: rest := by
  rw [memberValues, Result.bind_eq_ok]
  constructor
  · rintro ⟨v, hv, h⟩
    obtain ⟨rest, hrest, h⟩ := Result.bind_eq_ok.mp h
    exact ⟨v, rest, hv, hrest, (Except.ok.inj h).symm⟩
  · rintro ⟨v, rest, hv, hrest, rfl⟩
    exact ⟨v, hv, Result.bind_eq_ok.mpr ⟨rest, hrest, rfl⟩⟩

mutual

/-- An outline has a value just if it is well formed and within the limits. -/
theorem exists_value_iff (room : Nat) (o : Outline) : (∃ v, o.value room = .ok v) ↔ o.Readable room := by
  match o with
  | .broken => exact ⟨nofun, fun h => by cases h.wellFormed⟩
  | .null => exact ⟨fun _ => ⟨rfl, Nat.zero_le _, by simp [Outline.tokens, Token.denotes]⟩, fun _ => ⟨_, rfl⟩⟩
  | .bool b => exact ⟨fun _ => ⟨rfl, Nat.zero_le _, by simp [Outline.tokens, Token.denotes]⟩, fun _ => ⟨_, rfl⟩⟩
  | .number l =>
    rw [Outline.value]
    cases hl : l.value? with
    | none =>
      refine ⟨nofun, fun h => ?_⟩
      have hdenotes := h.denotes (.number l) (by rw [Outline.tokens]; exact List.mem_singleton_self _)
      rw [Token.denotes, hl] at hdenotes
      cases hdenotes
    | some n => exact ⟨fun _ => ⟨rfl, Nat.zero_le _, by simp [Outline.tokens, Token.denotes, hl]⟩, fun _ => ⟨_, rfl⟩⟩
  | .text none =>
    refine ⟨nofun, fun h => ?_⟩
    have hdenotes := h.denotes (.text none) (by rw [Outline.tokens]; exact List.mem_singleton_self _)
    cases hdenotes
  | .text (some s) =>
    exact ⟨fun _ => ⟨rfl, Nat.zero_le _, by simp [Outline.tokens, Token.denotes]⟩, fun _ => ⟨_, rfl⟩⟩
  | .array items closed =>
    cases room with
    | zero => exact ⟨nofun, fun h => absurd h not_readable_zero_array⟩
    | succ room =>
      rw [readable_array_iff, ← exists_values_iff room items]
      simp only [value_array_eq_ok_iff]
      exact ⟨fun ⟨_, vs, hvs, hclosed, _⟩ => ⟨⟨vs, hvs⟩, hclosed⟩,
        fun ⟨⟨vs, hvs⟩, hclosed⟩ => ⟨_, vs, hvs, hclosed, rfl⟩⟩
  | .object members closed =>
    cases room with
    | zero => exact ⟨nofun, fun h => absurd h not_readable_zero_object⟩
    | succ room =>
      rw [readable_object_iff, ← exists_memberValues_iff room members]
      simp only [value_object_eq_ok_iff]
      exact ⟨fun ⟨_, vs, hvs, hclosed, _⟩ => ⟨⟨vs, hvs⟩, hclosed⟩,
        fun ⟨⟨vs, hvs⟩, hclosed⟩ => ⟨_, vs, hvs, hclosed, rfl⟩⟩
termination_by sizeOf o

theorem exists_values_iff (room : Nat) (items : List Outline) :
    (∃ vs, values room items = .ok vs) ↔ ∀ item ∈ items, item.Readable room := by
  match items with
  | [] => exact ⟨nofun, fun _ => ⟨[], rfl⟩⟩
  | item :: items =>
    rw [List.forall_mem_cons, ← exists_value_iff room item, ← exists_values_iff room items]
    constructor
    · rintro ⟨_, h⟩
      obtain ⟨v, rest, hv, hrest, -⟩ := values_cons_eq_ok_iff.mp h
      exact ⟨⟨v, hv⟩, rest, hrest⟩
    · rintro ⟨⟨v, hv⟩, rest, hrest⟩
      exact ⟨_, values_cons_eq_ok_iff.mpr ⟨v, rest, hv, hrest, rfl⟩⟩
termination_by sizeOf items

theorem exists_memberValues_iff (room : Nat) (members : List (Key × Outline)) :
    (∃ vs, memberValues room members = .ok vs) ↔ ∀ m ∈ members, m.1.isSome = true ∧ m.2.Readable room := by
  match members with
  | [] => exact ⟨nofun, fun _ => ⟨[], rfl⟩⟩
  | (none, value) :: members => exact ⟨nofun, fun h => by cases (h _ List.mem_cons_self).1⟩
  | (some name, value) :: members =>
    rw [List.forall_mem_cons, ← exists_value_iff room value, ← exists_memberValues_iff room members]
    constructor
    · rintro ⟨_, h⟩
      obtain ⟨v, rest, hv, hrest, -⟩ := memberValues_cons_eq_ok_iff.mp h
      exact ⟨⟨rfl, v, hv⟩, rest, hrest⟩
    · rintro ⟨⟨-, v, hv⟩, rest, hrest⟩
      exact ⟨_, memberValues_cons_eq_ok_iff.mpr ⟨v, rest, hv, hrest, rfl⟩⟩
termination_by sizeOf members

end

/-! ## Members of objects -/

theorem Members.get?_ofList (name : String) (ms : List (String × Json)) :
    (Members.ofList ms).get? name = ms.reverse.lookup name := by
  induction ms using List.reverseRecOn with
  | nil => rfl
  | append_singleton ms m ih =>
    rw [Members.ofList_concat, List.reverse_append, List.reverse_singleton, List.singleton_append, List.lookup_cons]
    by_cases h : name = m.1
    · rw [h, Members.get?_insert_self, beq_self_eq_true]
    · rw [Members.get?_insert_of_ne h, ih, beq_false_of_ne h]

theorem mem_named_iff {name : String} {value : Outline} : ∀ {members : List (Key × Outline)},
    value ∈ named name members ↔ (some name, value) ∈ members
  | [] => by simp [named]
  | (key, first) :: members => by
    rw [named]
    split
    · next h => simp [h, mem_named_iff]
    · next h => simp [Ne.symm h, mem_named_iff]

/-- The value under a name is that of the last member of the name. -/
theorem get?_ofList_memberValues {room : Nat} (name : String) {members : List (Key × Outline)}
    {vs : List (String × Json)} (h : memberValues room members = .ok vs) :
    (Members.ofList vs).get? name = (named name members).getLast?.bind fun o => (o.value room).toOption := by
  rw [Members.get?_ofList]
  induction members generalizing vs with
  | nil =>
    obtain rfl := Except.ok.inj h
    rfl
  | cons member members ih =>
    obtain ⟨_ | other, value⟩ := member
    · cases h
    obtain ⟨v, rest, hv, hrest, rfl⟩ := memberValues_cons_eq_ok_iff.mp h
    rw [List.reverse_cons, List.lookup_append, ih hrest, List.lookup_cons, List.lookup_nil]
    by_cases hname : other = name
    · subst hname
      rw [named, if_pos rfl, List.getLast?_cons, beq_self_eq_true]
      cases hlast : (named other members).getLast? with
      | none => simp [hv, Except.toOption]
      | some last =>
        have hmem := mem_named_iff.mp (List.mem_of_getLast? hlast)
        have hlast := ((exists_memberValues_iff room members).mp ⟨_, hrest⟩ _ hmem).2
        obtain ⟨w, hw⟩ := (exists_value_iff room last).mpr hlast
        simp [hw, Except.toOption]
    · rw [named_cons_of_ne hname, beq_false_of_ne (Ne.symm hname), Option.or_none]

end SeriesExport.Json
