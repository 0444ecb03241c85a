import SeriesExport.Error
import SeriesExport.Proofs.Chronology
import SeriesExport.Proofs.Trimming

/-!
# The texts of a moment

`Spelled text m` says which texts are read as the moment `m`: six numbers between the marks of `2021-01-31T10:20:30`.
A number may have fewer digits than that and blanks in front of it, and a year may have a sign (`FieldText`,
`YearText`). The reader takes these texts and no others (`spelled_of_ofChars?`, `ofChars?_of_spelled`); each of its
parts has a lemma for either direction, which says what it leaves for the next one.

`IsInstant` is the one text in which every number fills its place. Of the texts of a moment it is the one that has
nineteen characters, none of them a blank and the first a digit (`IsInstant.isTight`, `IsTight.isInstant`).
-/

namespace SeriesExport.Moment

open Text (dropBlanks value isBlank)

/-! ## Numbers -/

/-- The digits are those of the number, perhaps with zeros in front. -/
structure Numeral (ds : List Char) (n : Nat) : Prop where
  digits : ∀ c ∈ ds, c.isDigit = true
  ne_nil : ds ≠ []
  value_eq : value ds = n

theorem not_isBlank_of_isDigit {c : Char} (h : c.isDigit = true) : isBlank c = false := by
  have hrange : 48 ≤ c.toNat ∧ c.toNat ≤ 57 := by simpa [Char.isDigit, UInt32.le_iff_toNat_le] using h
  simp [isBlank, Text.blankRanges]
  omega

/-- No digit follows. -/
def NoDigitFirst (cs : List Char) : Prop := ∀ c, cs.head? = some c → c.isDigit = false

/-- The digits at the beginning, at most `most` of them if there is a limit. -/
def leadingDigits (most : Option Nat) (cs : List Char) : List Char :=
  (match most with
    | some n => cs.take n
    | none => cs).takeWhile Char.isDigit

theorem number_eq (most : Option Nat) (cs : List Char) : number most cs =
    if cs = [] then .error .tooShort
    else if leadingDigits most cs = [] then .error .invalid
    else if largest < value (leadingDigits most cs) then .error .outOfRange
    else .ok (value (leadingDigits most cs), cs.drop (leadingDigits most cs).length) := rfl

theorem prefix_of_leadingDigits (most : Option Nat) (cs : List Char) : leadingDigits most cs <+: cs := by
  cases most with
  | none => exact List.takeWhile_prefix _
  | some n => exact (List.takeWhile_prefix _).trans (List.take_prefix n cs)

theorem length_leadingDigits_le {k : Nat} (cs : List Char) : (leadingDigits (some k) cs).length ≤ k := by
  have hle := (List.takeWhile_prefix (l := cs.take k) Char.isDigit).length_le
  rw [List.length_take] at hle
  simp only [leadingDigits]
  omega

theorem isDigit_of_mem_leadingDigits {most : Option Nat} {cs : List Char} {c : Char} (h : c ∈ leadingDigits most cs) :
    c.isDigit = true :=
  List.mem_takeWhile_imp h

theorem leadingDigits_append {most : Option Nat} {ds rest : List Char} (hds : ∀ c ∈ ds, c.isDigit = true)
    (hmost : ∀ k, most = some k → ds.length ≤ k) (hrest : NoDigitFirst rest) :
    leadingDigits most (ds ++ rest) = ds := by
  have hstop : ∀ cs, cs <+: rest → (ds ++ cs).takeWhile Char.isDigit = ds := by
    intro cs hcs
    rw [List.takeWhile_append_of_pos hds]
    cases cs with
    | nil => simp
    | cons c cs =>
      obtain ⟨tail, rfl⟩ := hcs
      have hc : c.isDigit = false := hrest c rfl
      simp [hc]
  cases most with
  | none => exact hstop rest List.prefix_rfl
  | some k =>
    simp only [leadingDigits, List.take_append, List.take_of_length_le (hmost k rfl)]
    exact hstop _ (List.take_prefix _ _)

theorem number_eq_ok {most : Option Nat} {cs rest : List Char} {n : Nat} (h : number most cs = .ok (n, rest)) :
    ∃ ds, cs = ds ++ rest ∧ Numeral ds n ∧ ∀ k, most = some k → ds.length ≤ k := by
  rw [number_eq] at h
  split at h
  · cases h
  split at h
  · cases h
  · next hne =>
    split at h
    · cases h
    obtain ⟨rfl, rfl⟩ := Prod.mk.inj (Except.ok.inj h)
    refine ⟨leadingDigits most cs, ?_, ⟨fun c => isDigit_of_mem_leadingDigits, hne, rfl⟩, ?_⟩
    · exact (List.prefix_iff_eq_append.mp (prefix_of_leadingDigits most cs)).symm
    · rintro k rfl
      exact length_leadingDigits_le cs

theorem number_append {most : Option Nat} {ds rest : List Char} {n : Nat} (hds : Numeral ds n) (hn : n ≤ largest)
    (hmost : ∀ k, most = some k → ds.length ≤ k) (hrest : NoDigitFirst rest) :
    number most (ds ++ rest) = .ok (n, rest) := by
  have hne : ds ++ rest ≠ [] := by simp [hds.ne_nil]
  have hle : ¬largest < n := Nat.not_lt.mpr hn
  rw [number_eq, leadingDigits_append hds.digits hmost hrest, hds.value_eq, if_neg hne, if_neg hds.ne_nil, if_neg hle,
    List.drop_left]

/-! ## Fields -/

/-- A number of at most two digits, with blanks in front of it. -/
inductive FieldText : List Char → Nat → Prop
  | intro {blanks ds : List Char} {n : Nat} : (∀ c ∈ blanks, isBlank c = true) → Numeral ds n → ds.length ≤ 2 →
      FieldText (blanks ++ ds) n

/-- A number of at most four digits, or a sign and any number of digits, with blanks in front. -/
inductive YearText : List Char → Int → Prop
  | unsigned {blanks ds : List Char} {n : Nat} : (∀ c ∈ blanks, isBlank c = true) → Numeral ds n → ds.length ≤ 4 →
      YearText (blanks ++ ds) n
  | positive {blanks ds : List Char} {n : Nat} : (∀ c ∈ blanks, isBlank c = true) → Numeral ds n →
      YearText (blanks ++ '+' :: ds) n
  | negative {blanks ds : List Char} {n : Nat} : (∀ c ∈ blanks, isBlank c = true) → Numeral ds n →
      YearText (blanks ++ '-' :: ds) (-n)

theorem field_eq_ok {low high n : Nat} {cs rest : List Char} (h : field low high cs = .ok (n, rest)) :
    ∃ front, cs = front ++ rest ∧ FieldText front n ∧ low ≤ n ∧ n ≤ high := by
  obtain ⟨⟨n', rest'⟩, hnumber, h⟩ := Result.bind_eq_ok.mp h
  dsimp only at h
  split at h
  · next hbounds =>
    obtain ⟨rfl, rfl⟩ := Prod.mk.inj (Except.ok.inj h)
    obtain ⟨blanks, hcs, hblanks⟩ := Text.exists_eq_append_dropBlanks cs
    obtain ⟨ds, hdrop, hds, hlength⟩ := number_eq_ok hnumber
    refine ⟨blanks ++ ds, ?_, .intro hblanks hds (hlength 2 rfl), hbounds⟩
    rw [List.append_assoc, ← hdrop]
    exact hcs
  · cases h

theorem Numeral.head_append {ds rest : List Char} {n : Nat} (hds : Numeral ds n) {c : Char}
    (h : (ds ++ rest).head? = some c) : c.isDigit = true := by
  cases ds with
  | nil => exact absurd rfl hds.ne_nil
  | cons d ds =>
    obtain rfl : d = c := Option.some.inj h
    exact hds.digits d List.mem_cons_self

theorem dropBlanks_blanks_append {blanks ds rest : List Char} {n : Nat} (hblanks : ∀ c ∈ blanks, isBlank c = true)
    (hds : Numeral ds n) : dropBlanks (blanks ++ ds ++ rest) = ds ++ rest := by
  rw [List.append_assoc]
  exact Text.dropBlanks_append hblanks fun c hc => not_isBlank_of_isDigit (hds.head_append hc)

theorem field_append {low high n : Nat} {front rest : List Char} (hfront : FieldText front n) (hlow : low ≤ n)
    (hhigh : n ≤ high) (hn : n ≤ largest) (hrest : NoDigitFirst rest) :
    field low high (front ++ rest) = .ok (n, rest) := by
  obtain ⟨hblanks, hds, hlength⟩ := hfront
  have hnumber := number_append hds hn (fun k hk => Option.some.inj hk ▸ hlength) hrest
  rw [field, dropBlanks_blanks_append hblanks hds, hnumber]
  exact if_pos ⟨hlow, hhigh⟩

/-- A number with a sign in front of it, or one of at most four digits. -/
def signed : List Char → Except Flaw (Int × List Char)
  | '-' :: cs => do
    let (n, rest) ← number none cs
    return (-(n : Int), rest)
  | '+' :: cs => do
    let (n, rest) ← number none cs
    return ((n : Int), rest)
  | cs => do
    let (n, rest) ← number (some 4) cs
    return ((n : Int), rest)

theorem year_eq (cs : List Char) : year cs = (signed (dropBlanks cs)).bind fun (y, rest) =>
    if -2147483648 ≤ y ∧ y ≤ 2147483647 then .ok (y, rest) else .error .outOfRange := by
  unfold year
  generalize dropBlanks cs = tail
  split
  · next tail =>
    rw [signed]
    cases number none tail <;> rfl
  · next tail =>
    rw [signed]
    cases number none tail <;> rfl
  · next hminus hplus =>
    rw [signed.eq_3 tail hminus hplus]
    cases number (some 4) tail <;> rfl

theorem year_eq_ok {y : Int} {cs rest : List Char} (h : year cs = .ok (y, rest)) :
    ∃ front, cs = front ++ rest ∧ YearText front y := by
  rw [year_eq] at h
  obtain ⟨⟨y', rest'⟩, hsigned, h⟩ := Result.bind_eq_ok.mp h
  dsimp only at h
  split at h
  case isFalse => cases h
  obtain ⟨rfl, rfl⟩ := Prod.mk.inj (Except.ok.inj h)
  obtain ⟨blanks, hcs, hblanks⟩ := Text.exists_eq_append_dropBlanks cs
  unfold signed at hsigned
  split at hsigned
  · next tail hdrop =>
    obtain ⟨⟨n, rest⟩, hnumber, hpair⟩ := Result.bind_eq_ok.mp hsigned
    obtain ⟨rfl, rfl⟩ := Prod.mk.inj (Except.ok.inj hpair)
    obtain ⟨ds, rfl, hds, -⟩ := number_eq_ok hnumber
    exact ⟨blanks ++ '-' :: ds, by rw [hcs, hdrop]; simp, .negative hblanks hds⟩
  · next tail hdrop =>
    obtain ⟨⟨n, rest⟩, hnumber, hpair⟩ := Result.bind_eq_ok.mp hsigned
    obtain ⟨rfl, rfl⟩ := Prod.mk.inj (Except.ok.inj hpair)
    obtain ⟨ds, rfl, hds, -⟩ := number_eq_ok hnumber
    exact ⟨blanks ++ '+' :: ds, by rw [hcs, hdrop]; simp, .positive hblanks hds⟩
  · obtain ⟨⟨n, rest⟩, hnumber, hpair⟩ := Result.bind_eq_ok.mp hsigned
    obtain ⟨rfl, rfl⟩ := Prod.mk.inj (Except.ok.inj hpair)
    obtain ⟨ds, hdrop, hds, hlength⟩ := number_eq_ok hnumber
    exact ⟨blanks ++ ds, by rw [hcs, hdrop]; simp, .unsigned hblanks hds (hlength 4 rfl)⟩

theorem year_append {y : Int} {front rest : List Char} (hfront : YearText front y) (hlow : -2147483648 ≤ y)
    (hhigh : y ≤ 2147483647) (hrest : NoDigitFirst rest) : year (front ++ rest) = .ok (y, rest) := by
  have hlargest : largest = 9223372036854775807 := rfl
  have hsigned : signed (dropBlanks (front ++ rest)) = .ok (y, rest) := by
    cases hfront with
    | @unsigned blanks ds n hblanks hds hlength =>
      have hnumber : number (some 4) (ds ++ rest) = .ok (n, rest) :=
        number_append hds (by omega) (fun k hk => Option.some.inj hk ▸ hlength) hrest
      rw [dropBlanks_blanks_append hblanks hds]
      unfold signed
      split
      · next hcs => cases hds.head_append (by rw [hcs]; rfl)
      · next hcs => cases hds.head_append (by rw [hcs]; rfl)
      · rw [hnumber]
        rfl
    | @positive blanks ds n hblanks hds =>
      have hnumber : number none (ds ++ rest) = .ok (n, rest) := number_append hds (by omega) nofun hrest
      rw [List.append_assoc, Text.dropBlanks_append hblanks fun c hc => by cases hc; decide]
      simp [signed, hnumber]
    | @negative blanks ds n hblanks hds =>
      have hnumber : number none (ds ++ rest) = .ok (n, rest) := number_append hds (by omega) nofun hrest
      rw [List.append_assoc, Text.dropBlanks_append hblanks fun c hc => by cases hc; decide]
      simp [signed, hnumber]
  rw [year_eq, hsigned]
  exact if_pos ⟨hlow, hhigh⟩

theorem after_eq_ok_iff {c : Char} {cs rest : List Char} : after c cs = .ok rest ↔ cs = c :: rest := by
  cases cs with
  | nil => simp [after]
  | cons d cs =>
    by_cases h : d = c <;> simp [after, h]

theorem noDigitFirst_cons {c : Char} (h : c.isDigit = false) (cs : List Char) : NoDigitFirst (c :: cs) := by
  intro d hd
  obtain rfl : c = d := Option.some.inj hd
  exact h

/-! ## Texts -/

/-- `year-month-dayThour:minute:second` -/
def assembled (year month day hour minute second : List Char) : List Char :=
  year ++ '-' :: month ++ '-' :: day ++ 'T' :: hour ++ ':' :: minute ++ ':' :: second

theorem assembled_eq (year month day hour minute second : List Char) : assembled year month day hour minute second =
    year ++ '-' :: (month ++ '-' :: (day ++ 'T' :: (hour ++ ':' :: (minute ++ ':' :: second)))) := by
  simp [assembled]

/-- The texts that are read as a moment. -/
inductive Spelled : List Char → Moment → Prop
  | intro {year month day hour minute second : List Char} {m : Moment} : YearText year m.date.year →
      FieldText month m.date.month → FieldText day m.date.day → FieldText hour m.hour → FieldText minute m.minute →
      FieldText second m.second → m.Valid → Spelled (assembled year month day hour minute second) m

theorem Spelled.valid {cs : List Char} {m : Moment} (h : Spelled cs m) : m.Valid := by
  obtain ⟨-, -, -, -, -, -, hvalid⟩ := h
  exact hvalid

theorem spelled_of_ofChars? {cs : List Char} {m : Moment} (h : ofChars? cs = .ok m) : Spelled cs m := by
  simp only [ofChars?, Result.bind_eq_ok, Prod.exists, after_eq_ok_iff] at h
  obtain ⟨year, _, hyear, _, rfl, month, _, hmonth, _, rfl, day, _, hday, _, rfl, hour, _, hhour, _, rfl,
    minute, _, hminute, _, rfl, second, rest, hsecond, h⟩ := h
  obtain ⟨yearText, rfl, hyearText⟩ := year_eq_ok hyear
  obtain ⟨monthText, rfl, hmonthText, -⟩ := field_eq_ok hmonth
  obtain ⟨dayText, rfl, hdayText, -⟩ := field_eq_ok hday
  obtain ⟨hourText, rfl, hhourText, -, hhour'⟩ := field_eq_ok hhour
  obtain ⟨minuteText, rfl, hminuteText, -, hminute'⟩ := field_eq_ok hminute
  obtain ⟨secondText, rfl, hsecondText, -, hsecond'⟩ := field_eq_ok hsecond
  split at h
  · cases h
  next hrest =>
  obtain rfl : rest = [] := not_not.mp hrest
  split at h
  · next hdate =>
    obtain rfl := Except.ok.inj h
    rw [List.append_nil, ← assembled_eq]
    exact .intro hyearText hmonthText hdayText hhourText hminuteText hsecondText ⟨hdate, hhour', hminute', hsecond'⟩
  · cases h

theorem ofChars?_of_spelled {cs : List Char} {m : Moment} (h : Spelled cs m) : ofChars? cs = .ok m := by
  obtain @⟨year, month, day, hour, minute, second, _, hyear, hmonth, hday, hhour, hminute, hsecond, hvalid⟩ := h
  obtain ⟨hfirst, hlast, hmonthPos, hmonthLe, hdayPos, hdayLe⟩ := Date.isValid_iff.mp hvalid.date
  have hdayLe' := Date.daysInMonth_le m.date.year m.date.month
  obtain ⟨hdate, hhourLe, hminuteLe, hsecondLe⟩ := hvalid
  have hlargest : largest = 9223372036854775807 := rfl
  have hdash := noDigitFirst_cons (c := '-') rfl
  have hmark := noDigitFirst_cons (c := 'T') rfl
  have hcolon := noDigitFirst_cons (c := ':') rfl
  simp only [Date.firstYear, Date.lastYear] at hfirst hlast
  rw [assembled_eq, ← List.append_nil second]
  refine Result.bind_eq_ok.mpr ⟨_, year_append hyear (by omega) (by omega) (hdash _), ?_⟩
  refine Result.bind_eq_ok.mpr ⟨_, after_eq_ok_iff.mpr rfl, ?_⟩
  refine Result.bind_eq_ok.mpr ⟨_, field_append hmonth hmonthPos hmonthLe (by omega) (hdash _), ?_⟩
  refine Result.bind_eq_ok.mpr ⟨_, after_eq_ok_iff.mpr rfl, ?_⟩
  refine Result.bind_eq_ok.mpr ⟨_, field_append hday hdayPos (by omega) (by omega) (hmark _), ?_⟩
  refine Result.bind_eq_ok.mpr ⟨_, after_eq_ok_iff.mpr rfl, ?_⟩
  refine Result.bind_eq_ok.mpr ⟨_, field_append hhour (Nat.zero_le _) hhourLe (by omega) (hcolon _), ?_⟩
  refine Result.bind_eq_ok.mpr ⟨_, after_eq_ok_iff.mpr rfl, ?_⟩
  refine Result.bind_eq_ok.mpr ⟨_, field_append hminute (Nat.zero_le _) hminuteLe (by omega) (hcolon _), ?_⟩
  refine Result.bind_eq_ok.mpr ⟨_, after_eq_ok_iff.mpr rfl, ?_⟩
  refine Result.bind_eq_ok.mpr ⟨_, field_append hsecond (Nat.zero_le _) hsecondLe (by omega) nofun, ?_⟩
  simp [hdate]

/-! ## Instants -/

/-- The number, written with just so many digits. -/
def Fills (width : Nat) (ds : List Char) (n : Nat) : Prop := Numeral ds n ∧ ds.length = width

/-- The text `2021-01-31T10:20:30Z` and no other: no number has more or fewer digits. -/
inductive IsInstant : List Char → Moment → Prop
  | intro {year month day hour minute second : List Char} {n : Nat} {m : Moment} : m.date.year = n →
      Fills 4 year n → Fills 2 month m.date.month → Fills 2 day m.date.day → Fills 2 hour m.hour →
      Fills 2 minute m.minute → Fills 2 second m.second →
      IsInstant (assembled year month day hour minute second ++ ['Z']) m

/-- Nineteen characters, a digit in front and no blanks. -/
structure IsTight (bare : List Char) : Prop where
  length : bare.length = 19
  notBlank : ∀ c ∈ bare, isBlank c = false
  head : ∃ c, bare.head? = some c ∧ c.isDigit = true

theorem eq_nil_of_blanks {blanks : List Char} (hblanks : ∀ c ∈ blanks, isBlank c = true)
    (h : ∀ c ∈ blanks, isBlank c = false) : blanks = [] := by
  cases blanks with
  | nil => rfl
  | cons c blanks =>
    have hc := h c List.mem_cons_self
    rw [hblanks c List.mem_cons_self] at hc
    cases hc

theorem FieldText.numeral {cs : List Char} {n : Nat} (h : FieldText cs n) (hcs : ∀ c ∈ cs, isBlank c = false) :
    Numeral cs n ∧ cs.length ≤ 2 := by
  obtain ⟨hblanks, hds, hlength⟩ := h
  obtain rfl := eq_nil_of_blanks hblanks fun c hc => hcs c (List.mem_append_left _ hc)
  exact ⟨hds, hlength⟩

theorem YearText.numeral {cs : List Char} {y : Int} (h : YearText cs y) (hcs : ∀ c ∈ cs, isBlank c = false)
    (hhead : ∀ c, cs.head? = some c → c.isDigit = true) : ∃ n : Nat, y = n ∧ Numeral cs n ∧ cs.length ≤ 4 := by
  cases h with
  | unsigned hblanks hds hlength =>
    obtain rfl := eq_nil_of_blanks hblanks fun c hc => hcs c (List.mem_append_left _ hc)
    exact ⟨_, rfl, hds, hlength⟩
  | positive hblanks hds =>
    obtain rfl := eq_nil_of_blanks hblanks fun c hc => hcs c (List.mem_append_left _ hc)
    cases hhead '+' rfl
  | negative hblanks hds =>
    obtain rfl := eq_nil_of_blanks hblanks fun c hc => hcs c (List.mem_append_left _ hc)
    cases hhead '-' rfl

/-- An instant without its `Z` is tight. -/
theorem IsInstant.isTight {bare : List Char} {m : Moment} (h : IsInstant (bare ++ ['Z']) m) : IsTight bare := by
  generalize htext : bare ++ ['Z'] = text at h
  obtain @⟨year, month, day, hour, minute, second, n, _, hn, hyear, hmonth, hday, hhour, hminute, hsecond⟩ := h
  obtain rfl : bare = assembled year month day hour minute second := List.append_cancel_right htext
  refine ⟨?_, ?_, ?_⟩
  · have := hyear.2; have := hmonth.2; have := hday.2; have := hhour.2; have := hminute.2; have := hsecond.2
    simp only [assembled, List.length_append, List.length_cons]
    omega
  · intro c hc
    simp only [assembled, List.mem_append, List.mem_cons] at hc
    rcases hc with ((((hc | rfl | hc) | rfl | hc) | rfl | hc) | rfl | hc) | rfl | hc
    · exact not_isBlank_of_isDigit (hyear.1.digits c hc)
    · decide
    · exact not_isBlank_of_isDigit (hmonth.1.digits c hc)
    · decide
    · exact not_isBlank_of_isDigit (hday.1.digits c hc)
    · decide
    · exact not_isBlank_of_isDigit (hhour.1.digits c hc)
    · decide
    · exact not_isBlank_of_isDigit (hminute.1.digits c hc)
    · decide
    · exact not_isBlank_of_isDigit (hsecond.1.digits c hc)
  · obtain ⟨c, year, rfl⟩ := List.exists_cons_of_ne_nil hyear.1.ne_nil
    exact ⟨c, rfl, hyear.1.digits c List.mem_cons_self⟩

/-- A tight text of a moment has no room for anything but the instant: every number has all the digits it may have. -/
theorem IsTight.isInstant {bare : List Char} {m : Moment} (htight : IsTight bare) (h : Spelled bare m) :
    IsInstant (bare ++ ['Z']) m := by
  obtain ⟨hlength, hblank, c, hhead, hdigit⟩ := htight
  obtain @⟨year, month, day, hour, minute, second, _, hyear, hmonth, hday, hhour, hminute, hsecond, hvalid⟩ := h
  have hyearHead : ∀ d, year.head? = some d → d.isDigit = true := by
    intro d hd
    cases year with
    | nil => cases hd
    | cons e year =>
      obtain rfl : e = d := Option.some.inj hd
      obtain rfl : e = c := Option.some.inj hhead
      exact hdigit
  simp only [assembled, List.mem_append, List.mem_cons] at hblank
  obtain ⟨n, hn, hyear, hyearLength⟩ := hyear.numeral (fun c hc => hblank c (by simp [hc])) hyearHead
  obtain ⟨hmonth, hmonthLength⟩ := hmonth.numeral fun c hc => hblank c (by simp [hc])
  obtain ⟨hday, hdayLength⟩ := hday.numeral fun c hc => hblank c (by simp [hc])
  obtain ⟨hhour, hhourLength⟩ := hhour.numeral fun c hc => hblank c (by simp [hc])
  obtain ⟨hminute, hminuteLength⟩ := hminute.numeral fun c hc => hblank c (by simp [hc])
  obtain ⟨hsecond, hsecondLength⟩ := hsecond.numeral fun c hc => hblank c (by simp [hc])
  simp only [assembled, List.length_append, List.length_cons] at hlength
  exact .intro hn ⟨hyear, by omega⟩ ⟨hmonth, by omega⟩ ⟨hday, by omega⟩ ⟨hhour, by omega⟩ ⟨hminute, by omega⟩
    ⟨hsecond, by omega⟩

end SeriesExport.Moment
