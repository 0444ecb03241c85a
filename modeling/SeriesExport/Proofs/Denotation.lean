import SeriesExport.Proofs.Readable

/-!
# What outlines denote

`Denotes` says, without a reader, which value an outline stands for, however deep it is nested. A reader that may enter
`room` levels finds this value if there are no more levels, and nothing else (`value_eq_ok_iff`).
-/

namespace SeriesExport.Json

mutual

/-- The outline stands for the value. Of members of one name the last one counts. -/
inductive Denotes : Outline → Json → Prop
  | null : Denotes .null .null
  | bool (b : Bool) : Denotes (.bool b) (.bool b)
  | number {l : NumberLiteral} {n : Number} : l.value? = some n → Denotes (.number l) (.number n)
  | string (s : String) : Denotes (.text (some s)) (.string s)
  | array {items : List Outline} {vs : List Json} : DenotesItems items vs → Denotes (.array items true) (.array vs)
  | object {members : List (Key × Outline)} {vs : List (String × Json)} : DenotesMembers members vs →
      Denotes (.object members true) (.object (Members.ofList vs))

inductive DenotesItems : List Outline → List Json → Prop
  | nil : DenotesItems [] []
  | cons {item : Outline} {items : List Outline} {v : Json} {vs : List Json} : Denotes item v → DenotesItems items vs →
      DenotesItems (item :: items) (v :: vs)

inductive DenotesMembers : List (Key × Outline) → List (String × Json) → Prop
  | nil : DenotesMembers [] []
  | cons {name : String} {value : Outline} {members : List (Key × Outline)} {v : Json} {vs : List (String × Json)} :
      Denotes value v → DenotesMembers members vs → DenotesMembers ((some name, value) :: members) ((name, v) :: vs)

end

mutual

/-- The value of an outline is what it denotes, if that is not too deep. -/
theorem value_eq_ok_iff (room : Nat) (o : Outline) (v : Json) :
    o.value room = .ok v ↔ Denotes o v ∧ o.depth ≤ room := by
  match o with
  | .broken => exact ⟨nofun, fun h => by cases h.1⟩
  | .null =>
    constructor
    · intro h
      obtain rfl := Except.ok.inj h
      exact ⟨.null, Nat.zero_le _⟩
    · rintro ⟨⟨⟩, -⟩
      rfl
  | .bool b =>
    constructor
    · intro h
      obtain rfl := Except.ok.inj h
      exact ⟨.bool b, Nat.zero_le _⟩
    · rintro ⟨⟨⟩, -⟩
      rfl
  | .number l =>
    rw [Outline.value]
    constructor
    · intro h
      split at h
      · next n hn =>
        obtain rfl := Except.ok.inj h
        exact ⟨.number hn, Nat.zero_le _⟩
      · cases h
    · rintro ⟨hdenotes, -⟩
      cases hdenotes with
      | number hn => rw [hn]
  | .text none => exact ⟨nofun, fun h => by cases h.1⟩
  | .text (some s) =>
    constructor
    · intro h
      obtain rfl := Except.ok.inj h
      exact ⟨.string s, Nat.zero_le _⟩
    · rintro ⟨⟨⟩, -⟩
      rfl
  | .array items closed =>
    cases room with
    | zero => exact ⟨nofun, fun h => absurd h.2 (Nat.not_succ_le_zero _)⟩
    | succ room =>
      rw [value_array_eq_ok_iff, Outline.depth, Nat.add_le_add_iff_right]
      constructor
      · rintro ⟨vs, hvs, rfl, rfl⟩
        obtain ⟨hitems, hdepth⟩ := (values_eq_ok_iff room items vs).mp hvs
        exact ⟨.array hitems, hdepth⟩
      · rintro ⟨hdenotes, hdepth⟩
        cases hdenotes with
        | @array _ vs hitems => exact ⟨vs, (values_eq_ok_iff room items vs).mpr ⟨hitems, hdepth⟩, rfl, rfl⟩
  | .object members closed =>
    cases room with
    | zero => exact ⟨nofun, fun h => absurd h.2 (Nat.not_succ_le_zero _)⟩
    | succ room =>
      rw [value_object_eq_ok_iff, Outline.depth, Nat.add_le_add_iff_right]
      constructor
      · rintro ⟨vs, hvs, rfl, rfl⟩
        obtain ⟨hmembers, hdepth⟩ := (memberValues_eq_ok_iff room members vs).mp hvs
        exact ⟨.object hmembers, hdepth⟩
      · rintro ⟨hdenotes, hdepth⟩
        cases hdenotes with
        | @object _ vs hmembers => exact ⟨vs, (memberValues_eq_ok_iff room members vs).mpr ⟨hmembers, hdepth⟩, rfl, rfl⟩
termination_by sizeOf o

theorem values_eq_ok_iff (room : Nat) (items : List Outline) (vs : List Json) :
    values room items = .ok vs ↔ DenotesItems items vs ∧ itemsDepth items ≤ room := by
  match items with
  | [] =>
    constructor
    · intro h
      obtain rfl := Except.ok.inj h
      exact ⟨.nil, Nat.zero_le _⟩
    · rintro ⟨⟨⟩, -⟩
      rfl
  | item :: items =>
    rw [values_cons_eq_ok_iff, itemsDepth, Nat.max_le]
    constructor
    · rintro ⟨v, rest, hv, hrest, rfl⟩
      obtain ⟨hitem, hdepth⟩ := (value_eq_ok_iff room item v).mp hv
      obtain ⟨hitems, hdepths⟩ := (values_eq_ok_iff room items rest).mp hrest
      exact ⟨.cons hitem hitems, hdepth, hdepths⟩
    · rintro ⟨hdenotes, hdepth, hdepths⟩
      cases hdenotes with
      | @cons _ _ v rest hitem hitems =>
        have hv := (value_eq_ok_iff room item v).mpr ⟨hitem, hdepth⟩
        have hrest := (values_eq_ok_iff room items rest).mpr ⟨hitems, hdepths⟩
        exact ⟨v, rest, hv, hrest, rfl⟩
termination_by sizeOf items

theorem memberValues_eq_ok_iff (room : Nat) (members : List (Key × Outline)) (vs : List (String × Json)) :
    memberValues room members = .ok vs ↔ DenotesMembers members vs ∧ membersDepth members ≤ room := by
  match members with
  | [] =>
    constructor
    · intro h
      obtain rfl := Except.ok.inj h
      exact ⟨.nil, Nat.zero_le _⟩
    · rintro ⟨⟨⟩, -⟩
      rfl
  | (none, value) :: members => exact ⟨nofun, fun h => by cases h.1⟩
  | (some name, value) :: members =>
    rw [memberValues_cons_eq_ok_iff, membersDepth, Nat.max_le]
    constructor
    · rintro ⟨v, rest, hv, hrest, rfl⟩
      obtain ⟨hvalue, hdepth⟩ := (value_eq_ok_iff room value v).mp hv
      obtain ⟨hmembers, hdepths⟩ := (memberValues_eq_ok_iff room members rest).mp hrest
      exact ⟨.cons hvalue hmembers, hdepth, hdepths⟩
    · rintro ⟨hdenotes, hdepth, hdepths⟩
      cases hdenotes with
      | @cons _ _ _ v rest hvalue hmembers =>
        have hv := (value_eq_ok_iff room value v).mpr ⟨hvalue, hdepth⟩
        have hrest := (memberValues_eq_ok_iff room members rest).mpr ⟨hmembers, hdepths⟩
        exact ⟨v, rest, hv, hrest, rfl⟩
termination_by sizeOf members

end

/-! ## Outlines of strings and objects -/

theorem value_eq_string_iff {room : Nat} {o : Outline} {s : String} :
    o.value room = .ok (.string s) ↔ o = .text (some s) := by
  rw [value_eq_ok_iff]
  constructor
  · rintro ⟨hdenotes, -⟩
    cases hdenotes
    rfl
  · rintro rfl
    exact ⟨.string s, Nat.zero_le _⟩

/-- An outline whose value is an object is an object. -/
theorem exists_object_of_value {room : Nat} {o : Outline} {ms : Members} (h : o.value room = .ok (.object ms)) :
    ∃ members inside vs, o = .object members true ∧ room = inside + 1 ∧ memberValues inside members = .ok vs ∧
      ms = Members.ofList vs := by
  obtain ⟨hdenotes, hdepth⟩ := (value_eq_ok_iff room o _).mp h
  cases hdenotes with
  | @object members vs hmembers =>
    obtain ⟨inside, rfl⟩ := Nat.exists_eq_add_of_le' ((Nat.le_add_left 1 _).trans hdepth)
    have hvalues := (memberValues_eq_ok_iff inside members vs).mpr ⟨hmembers, Nat.le_of_succ_le_succ hdepth⟩
    exact ⟨members, inside, vs, rfl, rfl, hvalues, rfl⟩

end SeriesExport.Json
