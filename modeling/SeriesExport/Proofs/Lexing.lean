import Mathlib.Data.List.TakeWhile
import SeriesExport.Json.Token

/-!
# Texts of tokens

Which characters a token is written with (`Lexeme`), and a list of tokens with space before, between and behind them
(`Lexed`), is said here without a reader. The scanner reads a text without a fault just if the text is that of some
tokens, and then these are what it reads (`scan_eq_iff`).

A number takes all characters that a number can have, so behind it there stands none of them (`NumberEnds`).
-/

namespace SeriesExport.Json

/-! ## Strings -/

/-- The characters between the quotes of a string, and the pieces that they are. -/
inductive Pieced : List Char → List Piece → Prop
  | nil : Pieced [] []
  | char {c : Char} {cs : List Char} {ps : List Piece} :
      ' ' ≤ c → c ≠ '"' → c ≠ '\\' → Pieced cs ps → Pieced (c :: cs) (.char c :: ps)
  | escape {c d : Char} {cs : List Char} {ps : List Piece} :
      escaped? c = some d → Pieced cs ps → Pieced ('\\' :: c :: cs) (.char d :: ps)
  | unit {a b c d : Char} {bits : Nat} {cs : List Char} {ps : List Piece} :
      unit? a b c d = some bits → Pieced cs ps → Pieced ('\\' :: 'u' :: a :: b :: c :: d :: cs) (.unit bits :: ps)

theorem pieces?_append {body : List Char} {ps : List Piece} (h : Pieced body ps) (rest : List Char) :
    pieces? (body ++ '"' :: rest) = some (ps, body.length + 1) := by
  induction h with
  | nil => rfl
  | @char c cs ps hspace hquote hslash _ ih =>
    have hlt : ¬(c < ' ' ∨ c = '\\') := fun h => h.elim (Char.not_lt.mpr hspace) hslash
    rw [List.cons_append, pieces?, if_neg hlt, ih]
    · rfl
    · exact hquote
    · rintro _ _ _ _ _ rfl
      exact absurd rfl hslash
    · rintro _ _ rfl
      exact absurd rfl hslash
  | @escape c d cs ps hc _ ih =>
    have hu : c ≠ 'u' := by
      rintro rfl
      cases hc
    rw [List.cons_append, List.cons_append, pieces?, hc, ih]
    · rfl
    · rintro _ _ _ _ _ rfl
      exact absurd rfl hu
  | @unit a b c d bits cs ps hbits _ ih =>
    show pieces? ('\\' :: 'u' :: a :: b :: c :: d :: (cs ++ '"' :: rest)) = _
    rw [pieces?, hbits, ih]
    rfl

theorem exists_pieced {cs : List Char} {ps : List Piece} {n : Nat} (h : pieces? cs = some (ps, n)) :
    ∃ body rest, cs = body ++ '"' :: rest ∧ n = body.length + 1 ∧ Pieced body ps := by
  fun_induction pieces? cs generalizing ps n with
  | case1 => cases h
  | case2 rest =>
    obtain ⟨rfl, rfl⟩ := Prod.mk.inj (Option.some.inj h)
    exact ⟨[], rest, rfl, rfl, .nil⟩
  | case3 a b c d rest ih =>
    obtain ⟨bits, hbits, h⟩ := Option.bind_eq_some_iff.mp h
    obtain ⟨⟨ps', n'⟩, hrest, h⟩ := Option.bind_eq_some_iff.mp h
    obtain ⟨rfl, rfl⟩ := Prod.mk.inj (Option.some.inj h)
    obtain ⟨body, rest, rfl, rfl, hbody⟩ := ih hrest
    exact ⟨_, rest, rfl, rfl, .unit hbits hbody⟩
  | case4 c rest _ ih =>
    obtain ⟨d, hd, h⟩ := Option.bind_eq_some_iff.mp h
    obtain ⟨⟨ps', n'⟩, hrest, h⟩ := Option.bind_eq_some_iff.mp h
    obtain ⟨rfl, rfl⟩ := Prod.mk.inj (Option.some.inj h)
    obtain ⟨body, rest, rfl, rfl, hbody⟩ := ih hrest
    exact ⟨_, rest, rfl, rfl, .escape hd hbody⟩
  | case5 => cases h
  | case6 c rest hquote _ _ hchar ih =>
    obtain ⟨⟨ps', n'⟩, hrest, h⟩ := Option.bind_eq_some_iff.mp h
    obtain ⟨rfl, rfl⟩ := Prod.mk.inj (Option.some.inj h)
    obtain ⟨body, rest, rfl, rfl, hbody⟩ := ih hrest
    rw [not_or] at hchar
    exact ⟨_, rest, rfl, rfl, .char (Char.not_lt.mp hchar.1) hquote hchar.2 hbody⟩

/-! ## Numbers -/

/-- One decimal digit at least, and nothing else. -/
def IsDigits (ds : List Char) : Prop := ds ≠ [] ∧ ∀ d ∈ ds, d.isDigit = true

/-- The characters of the part of a literal behind the point, with the point. -/
inductive FractionText : List Char → Option (List Char) → Prop
  | none : FractionText [] none
  | some {ds : List Char} : IsDigits ds → FractionText ('.' :: ds) (some ds)

/-- The characters of the sign of an exponent, and whether it is negative. -/
inductive SignText : List Char → Bool → Prop
  | none : SignText [] false
  | plus : SignText ['+'] false
  | minus : SignText ['-'] true

inductive ExponentText : List Char → Option (Bool × List Char) → Prop
  | none : ExponentText [] none
  | some {e : Char} {sign ds : List Char} {negative : Bool} :
      e = 'e' ∨ e = 'E' → SignText sign negative → IsDigits ds → ExponentText (e :: (sign ++ ds)) (some (negative, ds))

/-- The characters of a literal without its minus sign. A zero in front stands alone. -/
inductive Unsigned (negative : Bool) : List Char → NumberLiteral → Prop
  | mk {whole fraction exponent : List Char} {f : Option (List Char)} {e : Option (Bool × List Char)} :
      IsDigits whole → (whole.head? = some '0' → whole.length = 1) → FractionText fraction f → ExponentText exponent e →
      Unsigned negative (whole ++ (fraction ++ exponent)) ⟨negative, whole, f, e⟩

theorem Unsigned.exists_cons {negative : Bool} {text : List Char} {l : NumberLiteral} (h : Unsigned negative text l) :
    ∃ d tail, text = d :: tail ∧ d.isDigit = true := by
  obtain @⟨whole, _, _, _, _, hwhole, _, _, _⟩ := h
  obtain ⟨d, ds, rfl⟩ := List.exists_cons_of_ne_nil hwhole.1
  exact ⟨d, _, rfl, hwhole.2 d List.mem_cons_self⟩

/-- No character of a number comes next. -/
def NumberEnds (rest : List Char) : Prop := ∀ c ∈ rest.head?, c.isDigit = false ∧ c ≠ '.' ∧ c ≠ 'e' ∧ c ≠ 'E'

theorem takeWhile_isDigit_append {ds rest : List Char} (hds : ∀ d ∈ ds, d.isDigit = true)
    (hrest : ∀ c ∈ rest.head?, c.isDigit = false) : (ds ++ rest).takeWhile Char.isDigit = ds := by
  rw [List.takeWhile_append_of_pos hds]
  cases rest with
  | nil => rw [List.takeWhile_nil, List.append_nil]
  | cons c rest => rw [List.takeWhile_cons_of_neg (by simp [hrest c rfl]), List.append_nil]

theorem exists_takeWhile_isDigit (cs : List Char) : ∃ rest, cs = cs.takeWhile Char.isDigit ++ rest ∧
    ∀ c ∈ rest.head?, c.isDigit = false := by
  refine ⟨cs.dropWhile Char.isDigit, List.takeWhile_append_dropWhile.symm, fun c hc => ?_⟩
  have hhead := List.head?_dropWhile_not Char.isDigit cs
  rw [Option.mem_def.mp hc] at hhead
  exact hhead

theorem isDigits_takeWhile {cs : List Char} (h : cs.takeWhile Char.isDigit ≠ []) :
    IsDigits (cs.takeWhile Char.isDigit) :=
  ⟨h, fun _ => List.mem_takeWhile_imp⟩

theorem fraction?_append {text rest : List Char} {f : Option (List Char)} (h : FractionText text f)
    (hrest : ∀ c ∈ rest.head?, c.isDigit = false) (hpoint : ∀ c ∈ (text ++ rest).head?, f = none → c ≠ '.') :
    fraction? (text ++ rest) = some (f, text.length) := by
  cases h with
  | none =>
    cases rest with
    | nil => rfl
    | cons c rest =>
      rw [List.nil_append, fraction?]
      · rfl
      · intro _ heq
        exact hpoint c rfl rfl (List.cons.inj heq).1
  | @some ds hds =>
    rw [List.cons_append, fraction?, takeWhile_isDigit_append hds.2 hrest]
    obtain ⟨d, ds, rfl⟩ := List.exists_cons_of_ne_nil hds.1
    rfl

theorem exists_fractionText {cs : List Char} {f : Option (List Char)} {n : Nat} (h : fraction? cs = some (f, n))
    (hcs : ∀ c ∈ cs.head?, c.isDigit = false) : ∃ text rest, cs = text ++ rest ∧ n = text.length ∧
      FractionText text f ∧ ∀ c ∈ rest.head?, c.isDigit = false := by
  unfold fraction? at h
  split at h
  · next rest =>
    obtain ⟨rest', hrest, hend⟩ := exists_takeWhile_isDigit rest
    split at h
    · cases h
    · next hne =>
      obtain ⟨rfl, rfl⟩ := Prod.mk.inj (Option.some.inj h)
      exact ⟨'.' :: rest.takeWhile Char.isDigit, rest', congrArg ('.' :: ·) hrest, rfl,
        .some (isDigits_takeWhile hne), hend⟩
  · obtain ⟨rfl, rfl⟩ := Prod.mk.inj (Option.some.inj h)
    exact ⟨[], cs, rfl, rfl, .none, hcs⟩

/-- The sign of an exponent, how many characters it has, and what follows it. -/
def exponentSign : List Char → Bool × Nat × List Char
  | '-' :: rest => (true, 1, rest)
  | '+' :: rest => (false, 1, rest)
  | rest => (false, 0, rest)

theorem exponent?_cons (c : Char) (rest : List Char) : exponent? (c :: rest) =
    if c = 'e' ∨ c = 'E' then
      match (exponentSign rest).2.2.takeWhile Char.isDigit with
      | [] => none
      | ds => some (some ((exponentSign rest).1, ds), ds.length + (exponentSign rest).2.1 + 1)
    else some (none, 0) := by
  rfl

theorem exponentSign_append {sign rest : List Char} {negative : Bool} (h : SignText sign negative)
    (hrest : ∀ c ∈ rest.head?, c.isDigit = true) : exponentSign (sign ++ rest) = (negative, sign.length, rest) := by
  cases h with
  | none =>
    rw [List.nil_append, exponentSign]
    · rfl
    · rintro _ rfl
      cases hrest '-' rfl
    · rintro _ rfl
      cases hrest '+' rfl
  | plus => rfl
  | minus => rfl

theorem exists_signText (cs : List Char) : ∃ sign, cs = sign ++ (exponentSign cs).2.2 ∧
    (exponentSign cs).2.1 = sign.length ∧ SignText sign (exponentSign cs).1 := by
  unfold exponentSign
  split
  · exact ⟨['-'], rfl, rfl, .minus⟩
  · exact ⟨['+'], rfl, rfl, .plus⟩
  · exact ⟨[], rfl, rfl, .none⟩

theorem exponent?_append {text rest : List Char} {e : Option (Bool × List Char)} (h : ExponentText text e)
    (hrest : NumberEnds rest) : exponent? (text ++ rest) = some (e, text.length) := by
  cases h with
  | none =>
    cases rest with
    | nil => rfl
    | cons c rest => rw [List.nil_append, exponent?_cons, if_neg (not_or.mpr (hrest c rfl).2.2), List.length_nil]
  | @some e sign ds negative he hsign hds =>
    have htake := takeWhile_isDigit_append hds.2 fun c hc => (hrest c hc).1
    obtain ⟨d, ds, rfl⟩ := List.exists_cons_of_ne_nil hds.1
    have hhead : ∀ c ∈ (d :: ds ++ rest).head?, c.isDigit = true := by
      rintro c ⟨⟩
      exact hds.2 d List.mem_cons_self
    rw [List.cons_append, List.append_assoc, exponent?_cons, if_pos he, exponentSign_append hsign hhead, htake]
    simp only [List.length_cons, List.length_append]
    congr 2
    omega

theorem exists_exponentText {cs : List Char} {e : Option (Bool × List Char)} {n : Nat}
    (h : exponent? cs = some (e, n)) (hcs : ∀ c ∈ cs.head?, c.isDigit = false) : ∃ text rest, cs = text ++ rest ∧
      n = text.length ∧ ExponentText text e ∧ ∀ c ∈ rest.head?, c.isDigit = false := by
  cases cs with
  | nil =>
    obtain ⟨rfl, rfl⟩ := Prod.mk.inj (Option.some.inj h)
    exact ⟨[], [], rfl, rfl, .none, nofun⟩
  | cons c cs =>
    rw [exponent?_cons] at h
    split at h
    · next hc =>
      obtain ⟨sign, hcs, hlength, hsign⟩ := exists_signText cs
      obtain ⟨rest, hrest, hend⟩ := exists_takeWhile_isDigit (exponentSign cs).2.2
      split at h
      · cases h
      · next hne =>
        obtain ⟨rfl, rfl⟩ := Prod.mk.inj (Option.some.inj h)
        refine ⟨c :: (sign ++ (exponentSign cs).2.2.takeWhile Char.isDigit), rest, ?_, ?_,
          .some hc hsign (isDigits_takeWhile hne), hend⟩
        · rw [List.cons_append, List.append_assoc, ← hrest, ← hcs]
        · rw [hlength, List.length_cons, List.length_append, Nat.add_comm sign.length]
    · obtain ⟨rfl, rfl⟩ := Prod.mk.inj (Option.some.inj h)
      exact ⟨[], c :: cs, rfl, rfl, .none, hcs⟩

theorem literal?_append {negative : Bool} {text rest : List Char} {l : NumberLiteral} (h : Unsigned negative text l)
    (hrest : NumberEnds rest) : literal? negative (text ++ rest) = some (l, text.length) := by
  obtain @⟨whole, fraction, exponent, f, e, hwhole, hzero, hf, he⟩ := h
  -- behind the digits there is the point, the mark of the exponent or what ends the number
  have hexponent : ∀ c ∈ (exponent ++ rest).head?, c.isDigit = false ∧ c ≠ '.' := by
    cases he with
    | none => exact fun c hc => ⟨(hrest c hc).1, (hrest c hc).2.1⟩
    | some he _ _ => rcases he with rfl | rfl <;> rintro c ⟨⟩ <;> decide
  have hfraction : ∀ c ∈ (fraction ++ (exponent ++ rest)).head?, c.isDigit = false ∧ (f = none → c ≠ '.') := by
    cases hf with
    | none => exact fun c hc => ⟨(hexponent c hc).1, fun _ => (hexponent c hc).2⟩
    | some _ => rintro c ⟨⟩; exact ⟨by decide, nofun⟩
  have htake : (whole ++ (fraction ++ (exponent ++ rest))).takeWhile Char.isDigit = whole :=
    takeWhile_isDigit_append hwhole.2 fun c hc => (hfraction c hc).1
  have hread : ¬(whole = [] ∨ whole.head? = some '0' ∧ whole.length ≠ 1) := fun h =>
    h.elim hwhole.1 fun h => h.2 (hzero h.1)
  rw [List.append_assoc, List.append_assoc, literal?]
  simp only [htake, if_neg hread, List.drop_left]
  rw [fraction?_append hf (fun c hc => (hexponent c hc).1) fun c hc => (hfraction c hc).2]
  dsimp only [Option.bind_some, Option.bind_eq_bind]
  rw [← List.drop_drop, List.drop_left, List.drop_left, exponent?_append he hrest]
  simp only [Option.bind_some, List.length_append, Nat.add_assoc]

theorem exists_unsigned {negative : Bool} {cs : List Char} {l : NumberLiteral} {n : Nat}
    (h : literal? negative cs = some (l, n)) : ∃ text rest, cs = text ++ rest ∧ n = text.length ∧
      Unsigned negative text l ∧ ∀ c ∈ rest.head?, c.isDigit = false := by
  obtain ⟨behind, hcs, hbehind⟩ := exists_takeWhile_isDigit cs
  unfold literal? at h
  dsimp only at h
  split at h
  · cases h
  · next hwhole =>
    rw [not_or, not_and_not_right] at hwhole
    obtain ⟨⟨f, k⟩, hf, h⟩ := Option.bind_eq_some_iff.mp h
    obtain ⟨⟨e, m⟩, he, h⟩ := Option.bind_eq_some_iff.mp h
    obtain ⟨rfl, rfl⟩ := Prod.mk.inj (Option.some.inj h)
    have hdrop : cs.drop (cs.takeWhile Char.isDigit).length = behind :=
      (congrArg (List.drop (cs.takeWhile Char.isDigit).length) hcs).trans List.drop_left
    rw [hdrop] at hf
    rw [← List.drop_drop, hdrop] at he
    obtain ⟨fraction, behind, rfl, rfl, hfraction, hbehind⟩ := exists_fractionText hf hbehind
    rw [List.drop_left] at he
    obtain ⟨exponent, rest, rfl, rfl, hexponent, hrest⟩ := exists_exponentText he hbehind
    refine ⟨cs.takeWhile Char.isDigit ++ (fraction ++ exponent), rest, ?_, ?_,
      .mk (isDigits_takeWhile hwhole.1) hwhole.2 hfraction hexponent, hrest⟩
    · rw [List.append_assoc, List.append_assoc]
      exact hcs
    · rw [List.length_append, List.length_append, Nat.add_assoc]

/-! ## Tokens -/

/-- The characters of a token. -/
inductive Lexeme : List Char → Token → Prop
  | null : Lexeme ['n', 'u', 'l', 'l'] .null
  | true : Lexeme ['t', 'r', 'u', 'e'] (.bool true)
  | false : Lexeme ['f', 'a', 'l', 's', 'e'] (.bool false)
  | positive {cs : List Char} {l : NumberLiteral} : Unsigned false cs l → Lexeme cs (.number l)
  | negative {cs : List Char} {l : NumberLiteral} : Unsigned true cs l → Lexeme ('-' :: cs) (.number l)
  | text {cs : List Char} {ps : List Piece} :
      Pieced cs ps → Lexeme ('"' :: (cs ++ ['"'])) (.text ((content? ps).map String.ofList))
  | openArray : Lexeme ['['] .openArray
  | closeArray : Lexeme [']'] .closeArray
  | openObject : Lexeme ['{'] .openObject
  | closeObject : Lexeme ['}'] .closeObject
  | comma : Lexeme [','] .comma
  | colon : Lexeme [':'] .colon

/-- The characters of tokens one after the other, with space before, between and behind them. -/
inductive Lexed : List Char → List Token → Prop
  | nil : Lexed [] []
  | space {c : Char} {cs : List Char} {ts : List Token} : isSpace c = true → Lexed cs ts → Lexed (c :: cs) ts
  | token {word cs : List Char} {t : Token} {ts : List Token} :
      Lexeme word t → (∀ l, t = .number l → NumberEnds cs) → Lexed cs ts → Lexed (word ++ cs) (t :: ts)

theorem lexeme?_of_isDigit {c : Char} (h : c.isDigit = true) (rest : List Char) :
    lexeme? c rest = (literal? false (c :: rest)).map fun (l, n) => (.number l, n - 1) := by
  unfold lexeme?
  split
  all_goals first
    | cases h
    | rw [if_pos h]

theorem not_isSpace_of_isDigit {c : Char} (h : c.isDigit = true) : isSpace c = false := by
  refine Bool.eq_false_iff.mpr fun hspace => ?_
  simp only [isSpace, Bool.or_eq_true, decide_eq_true_eq] at hspace
  rcases hspace with ((rfl | rfl) | rfl) | rfl <;> cases h

theorem lexeme?_append {word rest : List Char} {t : Token} (h : Lexeme word t)
    (hrest : ∀ l, t = .number l → NumberEnds rest) : ∃ c tail, word = c :: tail ∧ isSpace c = false ∧
      lexeme? c (tail ++ rest) = some (t, tail.length) := by
  cases h with
  | positive h =>
    have hread := literal?_append h (hrest _ rfl)
    obtain ⟨d, tail, rfl, hd⟩ := h.exists_cons
    refine ⟨d, tail, rfl, not_isSpace_of_isDigit hd, ?_⟩
    rw [lexeme?_of_isDigit hd, ← List.cons_append, hread]
    rfl
  | negative h =>
    refine ⟨'-', _, rfl, rfl, ?_⟩
    rw [lexeme?, literal?_append h (hrest _ rfl)]
    rfl
  | text h =>
    refine ⟨'"', _, rfl, rfl, ?_⟩
    rw [List.append_assoc, List.singleton_append, lexeme?, pieces?_append h, List.length_append]
    rfl
  | _ => exact ⟨_, _, rfl, rfl, rfl⟩

theorem scan_of_lexed {cs : List Char} {ts : List Token} (h : Lexed cs ts) : scan 0 cs = ts := by
  induction h with
  | nil => rfl
  | space hspace _ ih => rw [scan_space hspace, ih]
  | @token word cs t ts hword hend _ ih =>
    obtain ⟨c, tail, rfl, hspace, hread⟩ := lexeme?_append hword hend
    rw [List.cons_append, scan, hspace, hread]
    show t :: scan tail.length (tail ++ cs) = _
    rw [scan_eq_drop, List.drop_left, ih]

theorem exists_word {rest word : List Char} {t t' : Token} {n n' : Nat}
    (h : (if rest.take n = word then some (t', n) else none) = some (t, n')) (hn : word.length = n) :
    t = t' ∧ ∃ rest', rest = word ++ rest' ∧ n' = word.length := by
  obtain ⟨hword, h⟩ := Option.ite_none_right_eq_some.mp h
  obtain ⟨rfl, rfl⟩ := Prod.mk.inj (Option.some.inj h)
  exact ⟨rfl, rest.drop n, by rw [← hword, List.take_append_drop], hn.symm⟩

/-- What is read as a token is written as one, and no digit is left over behind a number. -/
theorem exists_lexeme {c : Char} {rest : List Char} {t : Token} {n : Nat} (h : lexeme? c rest = some (t, n)) :
    ∃ tail rest', rest = tail ++ rest' ∧ n = tail.length ∧ Lexeme (c :: tail) t ∧
      ∀ l, t = .number l → ∀ c ∈ rest'.head?, c.isDigit = false := by
  unfold lexeme? at h
  split at h
  · cases h
    exact ⟨[], rest, rfl, rfl, .openArray, nofun⟩
  · cases h
    exact ⟨[], rest, rfl, rfl, .closeArray, nofun⟩
  · cases h
    exact ⟨[], rest, rfl, rfl, .openObject, nofun⟩
  · cases h
    exact ⟨[], rest, rfl, rfl, .closeObject, nofun⟩
  · cases h
    exact ⟨[], rest, rfl, rfl, .comma, nofun⟩
  · cases h
    exact ⟨[], rest, rfl, rfl, .colon, nofun⟩
  · obtain ⟨rfl, rest', rfl, rfl⟩ := exists_word h rfl
    exact ⟨_, rest', rfl, rfl, .null, nofun⟩
  · obtain ⟨rfl, rest', rfl, rfl⟩ := exists_word h rfl
    exact ⟨_, rest', rfl, rfl, .true, nofun⟩
  · obtain ⟨rfl, rest', rfl, rfl⟩ := exists_word h rfl
    exact ⟨_, rest', rfl, rfl, .false, nofun⟩
  · obtain ⟨⟨ps, n'⟩, hpieces, h⟩ := Option.map_eq_some_iff.mp h
    cases h
    obtain ⟨body, rest', rfl, rfl, hbody⟩ := exists_pieced hpieces
    exact ⟨body ++ ['"'], rest', by simp, by simp, .text hbody, nofun⟩
  · obtain ⟨⟨l, n'⟩, hread, h⟩ := Option.map_eq_some_iff.mp h
    cases h
    obtain ⟨text, rest', rfl, rfl, htext, hrest⟩ := exists_unsigned hread
    exact ⟨text, rest', rfl, rfl, .negative htext, fun _ _ => hrest⟩
  · split at h
    · next hdigit =>
      obtain ⟨⟨l, n'⟩, hread, h⟩ := Option.map_eq_some_iff.mp h
      cases h
      obtain ⟨text, rest', htext, rfl, hunsigned, hrest⟩ := exists_unsigned hread
      obtain ⟨d, tail, rfl, -⟩ := hunsigned.exists_cons
      obtain ⟨rfl, rfl⟩ := List.cons.inj htext
      exact ⟨tail, rest', rfl, rfl, .positive hunsigned, fun _ _ => hrest⟩
    · cases h

theorem numberEnds_of_scan {rest : List Char} (hdigit : ∀ c ∈ rest.head?, c.isDigit = false)
    (h : .bad ∉ scan 0 rest) : NumberEnds rest := by
  cases rest with
  | nil => nofun
  | cons c rest =>
    rintro _ ⟨⟩
    refine ⟨hdigit c rfl, ?_, ?_, ?_⟩
    all_goals
      rintro rfl
      exact h List.mem_cons_self

theorem lexed_scan : ∀ cs : List Char, .bad ∉ scan 0 cs → Lexed cs (scan 0 cs)
  | [], _ => .nil
  | c :: rest, h => by
    by_cases hspace : isSpace c = true
    · rw [scan_space hspace] at h ⊢
      exact .space hspace (lexed_scan rest h)
    · have hspace : isSpace c = false := Bool.eq_false_iff.mpr hspace
      rw [scan, hspace] at h ⊢
      cases hread : lexeme? c rest with
      | none =>
        rw [hread] at h
        exact absurd List.mem_cons_self h
      | some read =>
        obtain ⟨t, n⟩ := read
        obtain ⟨tail, rest', hrest, rfl, hword, hdigit⟩ := exists_lexeme hread
        have hscan : scan tail.length rest = scan 0 rest' := by rw [hrest, scan_eq_drop, List.drop_left]
        have hlength : rest'.length ≤ rest.length := by
          rw [hrest, List.length_append]
          exact Nat.le_add_left _ _
        rw [hread] at h
        have h : .bad ∉ t :: scan tail.length rest := h
        show Lexed (c :: rest) (t :: scan tail.length rest)
        rw [hscan] at h ⊢
        rw [hrest, ← List.cons_append]
        have hbad : .bad ∉ scan 0 rest' := List.not_mem_of_not_mem_cons h
        exact .token hword (fun l hl => numberEnds_of_scan (hdigit l hl) hbad) (lexed_scan rest' hbad)
termination_by cs => cs.length
decreasing_by
  · simp
  · rw [List.length_cons]
    omega

theorem Lexed.bad_not_mem {cs : List Char} {ts : List Token} (h : Lexed cs ts) : .bad ∉ ts := by
  induction h with
  | nil => nofun
  | space _ _ ih => exact ih
  | token hword _ _ ih =>
    rw [List.mem_cons, not_or]
    refine ⟨?_, ih⟩
    rintro rfl
    cases hword

/-- A text is read without a fault just if it is the text of some tokens, and then they are what is read. -/
theorem scan_eq_iff {cs : List Char} {ts : List Token} : scan 0 cs = ts ∧ .bad ∉ ts ↔ Lexed cs ts := by
  constructor
  · rintro ⟨rfl, h⟩
    exact lexed_scan cs h
  · exact fun h => ⟨scan_of_lexed h, h.bad_not_mem⟩

end SeriesExport.Json
