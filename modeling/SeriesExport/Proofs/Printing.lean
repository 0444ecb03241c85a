import SeriesExport.Json.Printer
import SeriesExport.Proofs.Grammar

/-!
# What is printed is JSON

A value has an outline, the one that its printed text has (`Json.outline`), as far as its numbers have an exact text:
integers, and the zero that is read from `-0` (`Json.Integral`). The text of such a value spells its outline
(`spells_render`).
-/

namespace SeriesExport.Json

open Text (digits hex)

/-! ## Digits -/

/-- A number with more than one digit does not begin with a zero. -/
theorem length_digits_of_head? {n : Nat} (h : (digits n).head? = some '0') : (digits n).length = 1 := by
  induction n using Nat.strongRecOn with
  | _ n ih =>
    rw [digits, Nat.toDigits_eq_if (by decide)] at h ⊢
    split at h
    · next hlt => rw [if_pos hlt, List.length_singleton]
    · next hle =>
      -- the digits in front of the last one are those of a smaller number, which is zero then
      obtain ⟨d, ds, hcons⟩ := List.exists_cons_of_ne_nil (Text.digits_ne_nil (n / 10))
      rw [← digits, hcons, List.cons_append] at h
      obtain rfl : d = '0' := Option.some.inj h
      have hlength := ih (n / 10) (Nat.div_lt_self (by omega) (by decide)) (by rw [hcons]; rfl)
      have hvalue := Text.value_digits (n / 10)
      rw [hcons, List.length_cons, Nat.add_eq_right, List.length_eq_zero_iff] at hlength
      rw [hcons, hlength] at hvalue
      have hvalue : 0 = n / 10 := hvalue
      omega

theorem isDigits_digits (n : Nat) : IsDigits (digits n) :=
  ⟨Text.digits_ne_nil n, fun _ => Text.isDigit_of_mem_digits⟩

theorem unsigned_digits (negative : Bool) (n : Nat) :
    Unsigned negative (digits n) ⟨negative, digits n, none, none⟩ := by
  have h : Unsigned negative (digits n ++ ([] ++ [])) ⟨negative, digits n, none, none⟩ :=
    .mk (isDigits_digits n) length_digits_of_head? .none .none
  rwa [List.append_nil, List.append_nil] at h

/-! ## Strings -/

theorem unit?_hex {n : Nat} (h : n < 32) : ∃ a b c d, hex 4 n = [a, b, c, d] ∧ unit? a b c d = some n := by
  have hunit : ∀ n < 32, unit? (Text.hexDigit (n / 16 / 16 / 16)) (Text.hexDigit (n / 16 / 16)) (Text.hexDigit (n / 16))
      (Text.hexDigit n) = some n := by decide
  exact ⟨_, _, _, _, rfl, hunit n h⟩

theorem content?_unit {bits : Nat} (hhigh : isHighSurrogate bits = false) (hlow : isLowSurrogate bits = false)
    (ps : List Piece) : content? (.unit bits :: ps) = (content? ps).map (Char.ofNat bits :: ·) := by
  have hneither : ¬(isHighSurrogate bits || isLowSurrogate bits) = true := by rw [hhigh, hlow]; decide
  cases ps with
  | nil => exact if_neg hneither
  | cons p ps =>
    cases p with
    | char c => exact if_neg hneither
    | unit low => rw [content?, if_neg (Bool.eq_false_iff.mp hhigh), if_neg (Bool.eq_false_iff.mp hlow)]

/-- A character is written as a piece that denotes it. -/
theorem exists_piece (c : Char) : ∃ p, (∀ {cs ps}, Pieced cs ps → Pieced (escape c ++ cs) (p :: ps)) ∧
    ∀ ps, content? (p :: ps) = (content? ps).map (c :: ·) := by
  unfold escape
  split
  · exact ⟨.char '"', .escape rfl, fun _ => rfl⟩
  · exact ⟨.char '\\', .escape rfl, fun _ => rfl⟩
  · exact ⟨.char '\x08', .escape rfl, fun _ => rfl⟩
  · exact ⟨.char '\x0c', .escape rfl, fun _ => rfl⟩
  · exact ⟨.char '\n', .escape rfl, fun _ => rfl⟩
  · exact ⟨.char '\r', .escape rfl, fun _ => rfl⟩
  · exact ⟨.char '\t', .escape rfl, fun _ => rfl⟩
  · next hquote hslash _ _ _ _ _ =>
    split
    · next hlt =>
      have hbits : c.toNat < 32 := hlt
      obtain ⟨x, y, z, w, hhex, hunit⟩ := unit?_hex hbits
      refine ⟨.unit c.toNat, fun h => ?_, fun ps => ?_⟩
      · rw [hhex]
        exact .unit hunit h
      · have hhigh : isHighSurrogate c.toNat = false := by
          simp only [isHighSurrogate, Bool.and_eq_false_iff, decide_eq_false_iff_not]
          omega
        have hlow : isLowSurrogate c.toNat = false := by
          simp only [isLowSurrogate, Bool.and_eq_false_iff, decide_eq_false_iff_not]
          omega
        rw [content?_unit hhigh hlow, Char.ofNat_toNat]
    · next hlt => exact ⟨.char c, fun h => .char (Char.not_lt.mp hlt) hquote hslash h, fun _ => rfl⟩

theorem exists_pieces : ∀ cs : List Char, ∃ ps, Pieced (cs.flatMap escape) ps ∧ content? ps = some cs
  | [] => ⟨[], .nil, rfl⟩
  | c :: cs => by
    obtain ⟨ps, hps, hcontent⟩ := exists_pieces cs
    obtain ⟨p, hp, hc⟩ := exists_piece c
    refine ⟨p :: ps, hp hps, ?_⟩
    rw [hc, hcontent]
    rfl

/-- A quoted string is the token of the string. -/
theorem lexeme_quoted (s : String) : Lexeme (quoted s) (.text (some s)) := by
  obtain ⟨ps, hps, hcontent⟩ := exists_pieces s.toList
  have h := Lexeme.text hps
  rw [hcontent, Option.map_some, String.ofList_toList] at h
  exact h

/-! ## Values -/

/-- No number in the value is anything but an integer or the zero that is read from `-0`. -/
inductive Integral : Json → Prop
  | null : Integral .null
  | bool (b : Bool) : Integral (.bool b)
  | integer (i : Int) : Integral (.number (.integer i))
  | negativeZero : Integral (.number (.real (.zero true)))
  | string (s : String) : Integral (.string s)
  | array {items : List Json} : (∀ item ∈ items, Integral item) → Integral (.array items)
  | object {members : List (String × Json)} : (∀ m ∈ members, Integral m.2) → Integral (.object members)

/-- The literal of an integer, or else that of the zero which is read from `-0`. -/
def Number.literal : Number → NumberLiteral
  | .integer i => ⟨decide (i < 0), digits i.natAbs, none, none⟩
  | .real _ => ⟨true, ['0'], some ['0'], none⟩

mutual

/-- The outline of the text of a value. -/
def outline : Json → Outline
  | .null => .null
  | .bool b => .bool b
  | .number n => .number n.literal
  | .string s => .text (some s)
  | .array items => .array (outlines items) true
  | .object members => .object (memberOutlines members) true

def outlines : List Json → List Outline
  | [] => []
  | item :: items => item.outline :: outlines items

def memberOutlines : List (String × Json) → List (Key × Outline)
  | [] => []
  | (name, value) :: members => (some name, value.outline) :: memberOutlines members

end

/-- In front of whatever ends a number, the characters are those of the tokens. -/
def Renders (cs : List Char) (ts : List Token) : Prop :=
  ∀ rest more, NumberEnds rest → Lexed rest more → Lexed (cs ++ rest) (ts ++ more)

theorem Renders.lexeme {word : List Char} {t : Token} (h : Lexeme word t) : Renders word [t] :=
  fun _ _ hrest hlexed => .token h (fun _ _ => hrest) hlexed

theorem Lexed.symbol {c : Char} {t : Token} (h : Lexeme [c] t) (ht : ∀ l, t ≠ .number l) {cs : List Char}
    {ts : List Token} (hlexed : Lexed cs ts) : Lexed (c :: cs) (t :: ts) :=
  .token h (fun l hl => absurd hl (ht l)) hlexed

theorem numberEnds_cons {c : Char} (h : c = ',' ∨ c = ']' ∨ c = '}') (rest : List Char) : NumberEnds (c :: rest) := by
  rintro _ ⟨⟩
  rcases h with rfl | rfl | rfl <;> decide

theorem renders_items : ∀ {items : List Json}, (∀ item ∈ items, Renders item.text item.outline.tokens) →
    Renders (itemsText items) (itemTokens (outlines items))
  | [], _ => fun _ _ _ hlexed => by
    rw [itemsText, outlines, itemTokens]
    exact hlexed
  | [item], h => by
    rw [itemsText, outlines, outlines, itemTokens]
    exact h item List.mem_cons_self
  | item :: next :: items, h => fun rest more hrest hlexed => by
    obtain ⟨hitem, hitems⟩ := List.forall_mem_cons.mp h
    have hnext := renders_items hitems rest more hrest hlexed
    rw [outlines] at hnext
    rw [itemsText, outlines, outlines, itemTokens, List.append_assoc, List.append_assoc]
    exact hitem _ _ (numberEnds_cons (.inl rfl) _) (.symbol .comma nofun hnext)

theorem renders_members : ∀ {members : List (String × Json)}, (∀ m ∈ members, Renders m.2.text m.2.outline.tokens) →
    Renders (membersText members) (memberTokens (memberOutlines members))
  | [], _ => fun _ _ _ hlexed => by
    rw [membersText, memberOutlines, memberTokens]
    exact hlexed
  | [(name, value)], h => fun rest more hrest hlexed => by
    have hvalue := h (name, value) List.mem_cons_self rest more hrest hlexed
    rw [membersText, memberOutlines, memberOutlines, memberTokens, List.append_assoc]
    exact .token (lexeme_quoted name) nofun (.symbol .colon nofun hvalue)
  | (name, value) :: next :: members, h => fun rest more hrest hlexed => by
    obtain ⟨hvalue, hmembers⟩ := List.forall_mem_cons.mp h
    have hnext := renders_members hmembers rest more hrest hlexed
    rw [memberOutlines] at hnext
    have hvalue := hvalue _ _ (numberEnds_cons (.inl rfl) _) (.symbol .comma nofun hnext)
    rw [membersText, memberOutlines, memberOutlines, memberTokens, List.append_assoc, List.append_assoc]
    simpa using Lexed.token (lexeme_quoted name) nofun (.symbol .colon nofun hvalue)

/-- The characters of a value are those of the tokens of its outline. -/
theorem Integral.renders {v : Json} (h : v.Integral) : Renders v.text v.outline.tokens := by
  induction h with
  | null => exact .lexeme .null
  | bool b => cases b with
    | false => exact .lexeme .false
    | true => exact .lexeme .true
  | integer i =>
    cases i with
    | ofNat n => exact .lexeme (.positive (unsigned_digits false n))
    | negSucc n =>
      have hliteral : (Number.integer (.negSucc n)).literal = ⟨true, digits (n + 1), none, none⟩ := by
        rw [Number.literal, decide_eq_true (Int.negSucc_lt_zero n), Int.natAbs_negSucc]
      rw [outline, Outline.tokens, hliteral]
      exact .lexeme (.negative (unsigned_digits true (n + 1)))
  | negativeZero =>
    have hzero : IsDigits ['0'] := ⟨nofun, List.forall_mem_singleton.mpr rfl⟩
    exact .lexeme (.negative (.mk hzero (fun _ => rfl) (.some hzero) .none))
  | string s => exact .lexeme (lexeme_quoted s)
  | @array items _ ih =>
    intro rest more hrest hlexed
    have hitems := renders_items ih _ _ (numberEnds_cons (.inr (.inl rfl)) rest) (.symbol .closeArray nofun hlexed)
    rw [text, outline, Outline.tokens]
    simpa using Lexed.symbol .openArray nofun hitems
  | @object members _ ih =>
    intro rest more hrest hlexed
    have hmembers := renders_members ih _ _ (numberEnds_cons (.inr (.inr rfl)) rest) (.symbol .closeObject nofun hlexed)
    rw [text, outline, Outline.tokens]
    simpa using Lexed.symbol .openObject nofun hmembers

mutual

theorem isWellFormed_outline (v : Json) : v.outline.isWellFormed = true := by
  match v with
  | .null | .bool _ | .number _ | .string _ => rfl
  | .array items => rw [outline, Outline.isWellFormed, areWellFormed_outlines items, Bool.and_true]
  | .object members => rw [outline, Outline.isWellFormed, membersAreWellFormed_outlines members, Bool.and_true]
termination_by sizeOf v

theorem areWellFormed_outlines (items : List Json) : areWellFormed (outlines items) = true := by
  match items with
  | [] => rw [outlines, areWellFormed]
  | item :: items =>
    rw [outlines, areWellFormed, isWellFormed_outline item, areWellFormed_outlines items, Bool.and_true]
termination_by sizeOf items

theorem membersAreWellFormed_outlines (members : List (String × Json)) :
    membersAreWellFormed (memberOutlines members) = true := by
  match members with
  | [] => rw [memberOutlines, membersAreWellFormed]
  | (name, value) :: members =>
    rw [memberOutlines, membersAreWellFormed, isWellFormed_outline value, membersAreWellFormed_outlines members,
      Bool.and_true]
termination_by sizeOf members

end

/-- The text of a value spells its outline. -/
theorem spells_render {v : Json} (h : v.Integral) : Spells (render v) v.outline := by
  refine ⟨isWellFormed_outline v, ?_⟩
  have hlexed := h.renders [] [] nofun .nil
  rwa [List.append_nil, List.append_nil, ← String.toList_ofList (l := v.text)] at hlexed

end SeriesExport.Json
