import SeriesExport.Proofs.Lexing
import SeriesExport.Proofs.Records

/-!
# The texts of JSON

A text of an outline is one of its tokens, with space anywhere between them (`Spells`). This is said without a reader.
The reader finds an outline in a text, and the text at an end with it, just if the text spells the outline
(`ofText_eq_iff`).
-/

namespace SeriesExport.Json

/-! ## Tokens of outlines -/

mutual

/-- The tokens of an outline that is well formed. -/
def Outline.tokens : Outline → List Token
  | .broken => []
  | .null => [.null]
  | .bool b => [.bool b]
  | .number l => [.number l]
  | .text content => [.text content]
  | .array items _ => .openArray :: (itemTokens items ++ [.closeArray])
  | .object members _ => .openObject :: (memberTokens members ++ [.closeObject])

/-- The items with a comma between any two. -/
def itemTokens : List Outline → List Token
  | [] => []
  | [item] => item.tokens
  | item :: next :: items => item.tokens ++ .comma :: itemTokens (next :: items)

/-- The members with a comma between any two. -/
def memberTokens : List (Key × Outline) → List Token
  | [] => []
  | [(key, value)] => .text key :: .colon :: value.tokens
  | (key, value) :: next :: members => .text key :: .colon :: (value.tokens ++ .comma :: memberTokens (next :: members))

end

/-- The text is JSON, and the outline is that of its value. -/
def Spells (text : String) (o : Outline) : Prop := o.isWellFormed = true ∧ Lexed text.toList o.tokens

/-! ## What is written is read -/

theorem exists_token : ∀ {o : Outline}, o.isWellFormed = true → ∃ t ts, o.tokens = t :: ts ∧ t ≠ .closeArray
  | .broken, h => by cases h
  | .null, _ => ⟨.null, [], by rw [Outline.tokens], nofun⟩
  | .bool b, _ => ⟨.bool b, [], by rw [Outline.tokens], nofun⟩
  | .number l, _ => ⟨.number l, [], by rw [Outline.tokens], nofun⟩
  | .text content, _ => ⟨.text content, [], by rw [Outline.tokens], nofun⟩
  | .array items _, _ => ⟨.openArray, itemTokens items ++ [.closeArray], by rw [Outline.tokens], nofun⟩
  | .object members _, _ => ⟨.openObject, memberTokens members ++ [.closeObject], by rw [Outline.tokens], nofun⟩

theorem exists_itemTokens {item : Outline} (h : item.isWellFormed = true) (items : List Outline) :
    ∃ t ts, itemTokens (item :: items) = t :: ts ∧ t ≠ .closeArray := by
  obtain ⟨t, ts, htokens, hne⟩ := exists_token h
  cases items with
  | nil => exact ⟨t, ts, by rw [itemTokens, htokens], hne⟩
  | cons next items => exact ⟨t, _, by rw [itemTokens, htokens, List.cons_append], hne⟩

theorem exists_memberTokens (key : Key) (value : Outline) (members : List (Key × Outline)) :
    ∃ ts, memberTokens ((key, value) :: members) = .text key :: ts := by
  cases members with
  | nil => exact ⟨_, by rw [memberTokens]⟩
  | cons next members => exact ⟨_, by rw [memberTokens]⟩

mutual

theorem awaitValue_tokens (o : Outline) (h : o.isWellFormed = true) (stack : List Frame) (ts : List Token) :
    awaitValue stack (o.tokens ++ ts) = continueWith o stack ts := by
  match o with
  | .broken => cases h
  | .null => rw [Outline.tokens, List.singleton_append, awaitValue]
  | .bool _ => rw [Outline.tokens, List.singleton_append, awaitValue]
  | .number _ => rw [Outline.tokens, List.singleton_append, awaitValue]
  | .text _ => rw [Outline.tokens, List.singleton_append, awaitValue]
  | .array [] closed =>
    obtain rfl : closed = true := h
    rw [Outline.tokens, itemTokens, List.nil_append, List.cons_append, List.singleton_append, awaitValue]
  | .array (item :: items) closed =>
    obtain ⟨hitems, rfl⟩ := Bool.and_eq_true_iff.mp h
    obtain ⟨hitem, hitems⟩ := Bool.and_eq_true_iff.mp hitems
    obtain ⟨t, rest, htokens, hne⟩ := exists_itemTokens hitem items
    have hread := awaitValue_itemTokens item items hitem hitems [] stack ts
    rw [Outline.tokens, List.cons_append, List.append_assoc, List.singleton_append, awaitValue]
    · exact hread
    · rw [htokens]
      intro _ heq
      exact hne (List.cons.inj heq).1
  | .object [] closed =>
    obtain rfl : closed = true := h
    rw [Outline.tokens, memberTokens, List.nil_append, List.cons_append, List.singleton_append, awaitValue]
  | .object ((key, value) :: members) closed =>
    obtain ⟨hmembers, rfl⟩ := Bool.and_eq_true_iff.mp h
    obtain ⟨hvalue, hmembers⟩ := Bool.and_eq_true_iff.mp hmembers
    obtain ⟨rest, htokens⟩ := exists_memberTokens key value members
    have hread := awaitKey_memberTokens key value members hvalue hmembers [] stack ts
    rw [Outline.tokens, List.cons_append, List.append_assoc, List.singleton_append, awaitValue]
    · exact hread
    · rw [htokens]
      intro _ heq
      cases (List.cons.inj heq).1
termination_by sizeOf o

theorem awaitValue_itemTokens (item : Outline) (items : List Outline) (hitem : item.isWellFormed = true)
    (hitems : areWellFormed items = true) (before : List Outline) (stack : List Frame) (ts : List Token) :
    awaitValue (.array before :: stack) (itemTokens (item :: items) ++ .closeArray :: ts) =
      continueWith (.array (before.reverse ++ item :: items) true) stack ts := by
  match items with
  | [] => rw [itemTokens, awaitValue_tokens item hitem, continueWith, Frame.close, List.reverse_cons]
  | next :: items =>
    obtain ⟨hnext, hitems⟩ := Bool.and_eq_true_iff.mp hitems
    have hread := awaitValue_itemTokens next items hnext hitems (item :: before) stack ts
    rw [itemTokens, List.append_assoc, List.cons_append, awaitValue_tokens item hitem, continueWith, hread,
      List.reverse_cons, List.append_assoc, List.singleton_append]
termination_by sizeOf (item :: items)

theorem awaitKey_memberTokens (key : Key) (value : Outline) (members : List (Key × Outline))
    (hvalue : value.isWellFormed = true) (hmembers : membersAreWellFormed members = true)
    (before : List (Key × Outline)) (stack : List Frame) (ts : List Token) :
    awaitKey before stack (memberTokens ((key, value) :: members) ++ .closeObject :: ts) =
      continueWith (.object (before.reverse ++ (key, value) :: members) true) stack ts := by
  match members with
  | [] =>
    rw [memberTokens, List.cons_append, List.cons_append, awaitKey, awaitValue_tokens value hvalue, continueWith,
      Frame.close, List.reverse_cons]
  | (key', value') :: members =>
    obtain ⟨hnext, hmembers⟩ := Bool.and_eq_true_iff.mp hmembers
    have hread := awaitKey_memberTokens key' value' members hnext hmembers ((key, value) :: before) stack ts
    rw [memberTokens, List.cons_append, List.cons_append, List.append_assoc, List.cons_append, awaitKey,
      awaitValue_tokens value hvalue, continueWith, hread, List.reverse_cons, List.append_assoc, List.singleton_append]
termination_by sizeOf ((key, value) :: members)

end

/-! ## What is read was written -/

theorem areWellFormed_iff : ∀ {items : List Outline},
    areWellFormed items = true ↔ ∀ item ∈ items, item.isWellFormed = true
  | [] => by simp [areWellFormed]
  | item :: items => by rw [areWellFormed, Bool.and_eq_true, areWellFormed_iff, List.forall_mem_cons]

theorem membersAreWellFormed_iff : ∀ {members : List (Key × Outline)},
    membersAreWellFormed members = true ↔ ∀ m ∈ members, m.2.isWellFormed = true
  | [] => by simp [membersAreWellFormed]
  | m :: members => by
    rw [membersAreWellFormed, Bool.and_eq_true, membersAreWellFormed_iff, List.forall_mem_cons]

theorem itemTokens_concat (last : Outline) : ∀ items : List Outline,
    itemTokens (items ++ [last]) = items.flatMap (fun item => item.tokens ++ [.comma]) ++ last.tokens
  | [] => by rw [List.nil_append, itemTokens, List.flatMap_nil, List.nil_append]
  | [item] => by simp [itemTokens]
  | item :: next :: items => by
    have hitems := itemTokens_concat last (next :: items)
    rw [List.cons_append] at hitems
    rw [List.cons_append, List.cons_append, itemTokens, hitems, List.flatMap_cons]
    simp

/-- A member with the comma behind it. -/
def separated (m : Key × Outline) : List Token := .text m.1 :: .colon :: (m.2.tokens ++ [.comma])

theorem memberTokens_concat (key : Key) (last : Outline) : ∀ members : List (Key × Outline),
    memberTokens (members ++ [(key, last)]) = members.flatMap separated ++ .text key :: .colon :: last.tokens
  | [] => by rw [List.nil_append, memberTokens, List.flatMap_nil, List.nil_append]
  | [(k, v)] => by simp [memberTokens, separated]
  | (k, v) :: next :: members => by
    have hmembers := memberTokens_concat key last (next :: members)
    rw [List.cons_append] at hmembers
    rw [List.cons_append, List.cons_append, memberTokens, hmembers, List.flatMap_cons]
    simp [separated]

/-- The tokens of what is open, up to where its next value begins. -/
def Frame.tokens : Frame → List Token
  | .array before => .openArray :: before.reverse.flatMap fun item => item.tokens ++ [.comma]
  | .object before key => .openObject :: (before.reverse.flatMap separated ++ [.text key, .colon])

def Frame.IsWellFormed : Frame → Prop
  | .array before => ∀ item ∈ before, item.isWellFormed = true
  | .object before _ => ∀ m ∈ before, m.2.isWellFormed = true

/-- The tokens that were read when the frames of the stack were open. -/
def stackTokens : List Frame → List Token
  | [] => []
  | frame :: stack => stackTokens stack ++ frame.tokens

/-- The outline is well formed and has these tokens. -/
def Outline.IsRead (root : Outline) (ts : List Token) : Prop := root.isWellFormed = true ∧ root.tokens = ts

theorem complete_abandon : ∀ (stack : List Frame) (value : Outline), (abandon value stack).complete = false
  | [], _ => rfl
  | frame :: stack, value => by rw [abandon, complete_abandon stack]

theorem abandon_ne {root value : Outline} {stack : List Frame} : abandon value stack ≠ ⟨root, true⟩ := by
  intro h
  have hcomplete := complete_abandon stack value
  rw [h] at hcomplete
  cases hcomplete

theorem isWellFormed_close {value : Outline} {frame : Frame} (hvalue : value.isWellFormed = true)
    (hframe : frame.IsWellFormed) : (frame.close value true).isWellFormed = true := by
  cases frame with
  | array before =>
    rw [Frame.close, Outline.isWellFormed, Bool.and_true, areWellFormed_iff]
    intro item hitem
    obtain rfl | hitem := List.mem_cons.mp (List.mem_reverse.mp hitem)
    · exact hvalue
    · exact hframe item hitem
  | object before key =>
    rw [Frame.close, Outline.isWellFormed, Bool.and_true, membersAreWellFormed_iff]
    intro m hm
    obtain rfl | hm := List.mem_cons.mp (List.mem_reverse.mp hm)
    · exact hvalue
    · exact hframe m hm

/-- The tokens of an array or object that is closed behind its last value. -/
theorem tokens_close_array (value : Outline) (before : List Outline) :
    (Frame.close value true (.array before)).tokens =
      (Frame.array before).tokens ++ (value.tokens ++ [.closeArray]) := by
  rw [Frame.close, Outline.tokens, List.reverse_cons, itemTokens_concat, Frame.tokens]
  simp

theorem tokens_close_object (value : Outline) (before : List (Key × Outline)) (key : Key) :
    (Frame.close value true (.object before key)).tokens =
      (Frame.object before key).tokens ++ (value.tokens ++ [.closeObject]) := by
  rw [Frame.close, Outline.tokens, List.reverse_cons, memberTokens_concat, Frame.tokens]
  simp

mutual

theorem isRead_of_awaitValue {root : Outline} (stack : List Frame) (ts : List Token)
    (hstack : ∀ frame ∈ stack, frame.IsWellFormed) (h : awaitValue stack ts = ⟨root, true⟩) :
    root.IsRead (stackTokens stack ++ ts) := by
  unfold awaitValue at h
  split at h
  · exact isRead_of_continueWith .null stack _ rfl hstack h
  · exact isRead_of_continueWith (.bool _) stack _ rfl hstack h
  · exact isRead_of_continueWith (.number _) stack _ rfl hstack h
  · exact isRead_of_continueWith (.text _) stack _ rfl hstack h
  · exact isRead_of_continueWith (.array [] true) stack _ rfl hstack h
  · have hread := isRead_of_awaitValue (.array [] :: stack) _ (List.forall_mem_cons.mpr ⟨nofun, hstack⟩) h
    simpa [stackTokens, Frame.tokens] using hread
  · exact isRead_of_continueWith (.object [] true) stack _ rfl hstack h
  · exact isRead_of_awaitKey [] stack _ nofun hstack h
  · exact absurd h abandon_ne
termination_by ts.length

theorem isRead_of_awaitKey {root : Outline} (before : List (Key × Outline)) (stack : List Frame) (ts : List Token)
    (hbefore : ∀ m ∈ before, m.2.isWellFormed = true) (hstack : ∀ frame ∈ stack, frame.IsWellFormed)
    (h : awaitKey before stack ts = ⟨root, true⟩) :
    root.IsRead (stackTokens stack ++ .openObject :: (before.reverse.flatMap separated ++ ts)) := by
  unfold awaitKey at h
  split at h
  · next key ts =>
    have hread := isRead_of_awaitValue (.object before key :: stack) ts (List.forall_mem_cons.mpr ⟨hbefore, hstack⟩) h
    simpa [stackTokens, Frame.tokens] using hread
  · exact absurd h abandon_ne
  · exact absurd h abandon_ne
termination_by ts.length

theorem isRead_of_continueWith {root : Outline} (value : Outline) (stack : List Frame) (ts : List Token)
    (hvalue : value.isWellFormed = true) (hstack : ∀ frame ∈ stack, frame.IsWellFormed)
    (h : continueWith value stack ts = ⟨root, true⟩) : root.IsRead (stackTokens stack ++ (value.tokens ++ ts)) := by
  unfold continueWith at h
  split at h
  · obtain ⟨rfl, hempty⟩ := Document.mk.inj h
    exact ⟨hvalue, by rw [List.isEmpty_iff.mp hempty, stackTokens, List.nil_append, List.append_nil]⟩
  · next before stack ts =>
    obtain ⟨hframe, hstack⟩ := List.forall_mem_cons.mp hstack
    have hopen : (Frame.array (value :: before)).IsWellFormed := List.forall_mem_cons.mpr ⟨hvalue, hframe⟩
    have hread := isRead_of_awaitValue (.array (value :: before) :: stack) ts
      (List.forall_mem_cons.mpr ⟨hopen, hstack⟩) h
    simpa [stackTokens, Frame.tokens] using hread
  · next before stack ts =>
    obtain ⟨hframe, hstack⟩ := List.forall_mem_cons.mp hstack
    have hread := isRead_of_continueWith _ stack ts (isWellFormed_close hvalue hframe) hstack h
    simpa [stackTokens, tokens_close_array] using hread
  · next before key stack ts =>
    obtain ⟨hframe, hstack⟩ := List.forall_mem_cons.mp hstack
    have hread := isRead_of_awaitKey ((key, value) :: before) stack ts (List.forall_mem_cons.mpr ⟨hvalue, hframe⟩)
      hstack h
    simpa [stackTokens, Frame.tokens, separated] using hread
  · next before key stack ts =>
    obtain ⟨hframe, hstack⟩ := List.forall_mem_cons.mp hstack
    have hread := isRead_of_continueWith _ stack ts (isWellFormed_close hvalue hframe) hstack h
    simpa [stackTokens, tokens_close_object] using hread
  · exact absurd h abandon_ne
termination_by ts.length

end

/-! ## Texts -/

mutual

theorem bad_not_mem_tokens (o : Outline) : .bad ∉ o.tokens := by
  match o with
  | .broken | .null | .bool _ | .number _ | .text _ => simp [Outline.tokens]
  | .array items _ => simp [Outline.tokens, bad_not_mem_itemTokens items]
  | .object members _ => simp [Outline.tokens, bad_not_mem_memberTokens members]
termination_by sizeOf o

theorem bad_not_mem_itemTokens (items : List Outline) : .bad ∉ itemTokens items := by
  match items with
  | [] => simp [itemTokens]
  | [item] => simp [itemTokens, bad_not_mem_tokens item]
  | item :: next :: items => simp [itemTokens, bad_not_mem_tokens item, bad_not_mem_itemTokens (next :: items)]
termination_by sizeOf items

theorem bad_not_mem_memberTokens (members : List (Key × Outline)) : .bad ∉ memberTokens members := by
  match members with
  | [] => simp [memberTokens]
  | [(_, value)] => simp [memberTokens, bad_not_mem_tokens value]
  | (_, value) :: next :: members =>
    simp [memberTokens, bad_not_mem_tokens value, bad_not_mem_memberTokens (next :: members)]
termination_by sizeOf members

end

/-- A text has an outline, and ends where it does, just if it spells it. -/
theorem ofText_eq_iff {text : String} {o : Outline} : Document.ofText text = ⟨o, true⟩ ↔ Spells text o := by
  constructor
  · intro h
    obtain ⟨hwf, htokens⟩ := isRead_of_awaitValue [] (tokens text) nofun h
    rw [stackTokens, List.nil_append] at htokens
    exact ⟨hwf, scan_eq_iff.mp ⟨htokens.symm, bad_not_mem_tokens o⟩⟩
  · rintro ⟨hwf, hlexed⟩
    have hread := awaitValue_tokens o hwf [] []
    rw [List.append_nil] at hread
    rw [Document.ofText, Document.ofTokens, tokens, (scan_eq_iff.mpr hlexed).1, hread, continueWith, List.isEmpty_nil]

/-- A text has at most one outline. -/
theorem Spells.unique {text : String} {o o' : Outline} (h : Spells text o) (h' : Spells text o') : o = o' :=
  (Document.mk.inj ((ofText_eq_iff.mpr h).symm.trans (ofText_eq_iff.mpr h'))).1

theorem Decoder.decode_of_spells {α : Type} {d : Decoder α} {text : String} {o : Outline} (h : Spells text o) :
    d.decode text = d maxDepth o := by
  rw [Decoder.decode, ofText_eq_iff.mpr h]
  cases d maxDepth o <;> rfl

/-- What is decoded from a text is decoded from the outline that the text spells. -/
theorem Decoder.decode_eq_ok_iff {α : Type} {d : Decoder α} {text : String} {a : α} :
    d.decode text = .ok a ↔ ∃ o, Spells text o ∧ d maxDepth o = .ok a := by
  constructor
  · intro h
    obtain ⟨a', hread, hrequire⟩ := Result.bind_eq_ok.mp h
    obtain ⟨hcomplete, rfl⟩ := require_eq_ok_iff.mp hrequire
    have hdocument : Document.ofText text = ⟨(Document.ofText text).root, true⟩ := by rw [← hcomplete]
    exact ⟨_, ofText_eq_iff.mp hdocument, hread⟩
  · rintro ⟨o, hspells, hread⟩
    rw [Decoder.decode_of_spells hspells, hread]

end SeriesExport.Json
