import SeriesExport.Proofs.Moments
import SeriesExport.TimeRange

/-!
# Windows that are accepted

A text `Denotes` a moment if it is one of the texts of that moment once blanks at its ends and a `Z` are gone. Such a
text is a bound, a blank one is an absent bound, and there are no others (`Bound.ofText?_eq_some_iff`,
`Bound.ofText?_eq_none_iff`). What is kept of a bound denotes the moment too, and is kept as it is when it is entered
again (`Bound.ofText?_text`).

A window is accepted if both ends can be read and the start is not after the end, so two ends that can be read are
accepted in one order at least; and an accepted window may be entered again
(`TimeRange.accepted_iff_inOrder_and_stable`).
-/

namespace SeriesExport

/-! ## Bounds -/

namespace Bound

/-- What is entered, without the blanks at its ends and without a `Z`. -/
def bare (text : String) : List Char := withoutZone (Text.trimChars text.toList)

/-- Nothing but blanks is entered. -/
def IsBlank (text : String) : Prop := ∀ c ∈ text.toList, Text.isBlank c = true

def Denotes (text : String) (m : Moment) : Prop := Moment.Spelled (bare text) m

def Readable (text : String) : Prop := IsBlank text ∨ ∃ m, Denotes text m

theorem ofChars?_bare_iff {text : String} {m : Moment} : Moment.ofChars? (bare text) = .ok m ↔ Denotes text m :=
  ⟨Moment.spelled_of_ofChars?, Moment.ofChars?_of_spelled⟩

theorem Denotes.bare_ne_nil {text : String} {m : Moment} (h : Denotes text m) : bare text ≠ [] := by
  intro hnil
  have hread := ofChars?_bare_iff.mpr h
  rw [hnil] at hread
  cases hread

theorem Denotes.valid {text : String} {m : Moment} (h : Denotes text m) : m.Valid := Moment.Spelled.valid h

theorem Denotes.unique {text : String} {m n : Moment} (hm : Denotes text m) (hn : Denotes text n) : m = n :=
  Except.ok.inj ((ofChars?_bare_iff.mpr hm).symm.trans (ofChars?_bare_iff.mpr hn))

theorem ofText?_eq_none_iff {text : String} : ofText? text = .ok none ↔ IsBlank text := by
  rw [IsBlank, ← Text.trimChars_eq_nil_iff, ofText?]
  by_cases hblank : Text.trimChars text.toList = []
  · simp [hblank]
  · rw [if_neg hblank]
    cases hread : Moment.ofChars? (withoutZone (Text.trimChars text.toList)) <;> simp [hread, hblank]

theorem ofText?_eq_some_iff {text : String} {b : Bound} :
    ofText? text = .ok (some b) ↔ Denotes text b.moment ∧ b.text = String.ofList (bare text ++ ['Z']) := by
  rw [← ofChars?_bare_iff, bare, ofText?]
  by_cases hblank : Text.trimChars text.toList = []
  · have hread : Moment.ofChars? [] = .error .tooShort := rfl
    simp [hblank, withoutZone, hread]
  · rw [if_neg hblank]
    cases hread : Moment.ofChars? (withoutZone (Text.trimChars text.toList)) with
    | error flaw => simp [hread]
    | ok m =>
      obtain ⟨moment, kept⟩ := b
      simp [hread, eq_comm]

theorem Denotes.ofText?_eq {text : String} {m : Moment} (h : Denotes text m) :
    ofText? text = .ok (some ⟨m, String.ofList (bare text ++ ['Z'])⟩) :=
  ofText?_eq_some_iff.mpr ⟨h, rfl⟩

/-- A text that can be read is a bound, or absent. -/
theorem readable_iff {text : String} : Readable text ↔ ∃ b, ofText? text = .ok b := by
  constructor
  · rintro (hblank | ⟨m, hm⟩)
    · exact ⟨none, ofText?_eq_none_iff.mpr hblank⟩
    · exact ⟨_, hm.ofText?_eq⟩
  · rintro ⟨_ | b, hb⟩
    · exact .inl (ofText?_eq_none_iff.mp hb)
    · exact .inr ⟨b.moment, (ofText?_eq_some_iff.mp hb).1⟩

/-! ### Entering a bound again -/

theorem withoutZone_prefix (cs : List Char) : withoutZone cs <+: cs := by
  unfold withoutZone
  split
  · exact List.dropLast_prefix cs
  · exact List.prefix_rfl

@[simp] theorem withoutZone_append_zone (cs : List Char) : withoutZone (cs ++ ['Z']) = cs := by
  simp [withoutZone]

/-- The `Z` at the end is no blank, and what comes first is what was first before. -/
theorem isTrimmed_bare_append {text : String} (h : bare text ≠ []) : Text.IsTrimmed (bare text ++ ['Z']) where
  head c hc := by
    obtain ⟨rest, hrest⟩ := withoutZone_prefix (Text.trimChars text.toList)
    apply (Text.isTrimmed_trimChars text.toList).head
    obtain ⟨d, front, hfront⟩ := List.exists_cons_of_ne_nil h
    rw [hfront] at hc
    rw [← hrest, ← bare, hfront]
    exact hc
  last c hc := by
    rw [List.getLast?_concat] at hc
    obtain rfl := Option.some.inj hc
    decide

theorem bare_ofList_append {text : String} (h : bare text ≠ []) :
    bare (String.ofList (bare text ++ ['Z'])) = bare text := by
  rw [bare, String.toList_ofList, Text.trimChars_eq_self_iff.mpr (isTrimmed_bare_append h), withoutZone_append_zone]

/-- What is kept of a bound is the same bound. -/
theorem ofText?_text {text : String} {b : Bound} (h : ofText? text = .ok (some b)) :
    ofText? b.text = .ok (some b) := by
  obtain ⟨hdenotes, htext⟩ := ofText?_eq_some_iff.mp h
  have hbare : bare b.text = bare text := by rw [htext, bare_ofList_append hdenotes.bare_ne_nil]
  refine ofText?_eq_some_iff.mpr ⟨?_, ?_⟩
  · rw [Denotes, hbare]
    exact hdenotes
  · rw [hbare]
    exact htext

/-- What is sent for an end, entered again, gives the end again. -/
theorem ofText?_param {text : String} {b : Option Bound} (h : ofText? text = .ok b) :
    ofText? ((b.map (·.text)).getD "") = .ok b := by
  cases b with
  | none => exact ofText?_eq_none_iff.mpr nofun
  | some b => exact ofText?_text h

end Bound

/-! ## Windows -/

namespace TimeRange

open SeriesExport.Bound (IsBlank Denotes Readable)

/-- If both ends are present, the start is not after the end. -/
def InOrder (start stop : String) : Prop := ∀ m n, Denotes start m → Denotes stop n → ¬n.Before m

/-- The bounds are compared as moments and kept as texts. -/
theorem ofTexts?_eq_ok_iff {start stop : String} {range : TimeRange} : ofTexts? start stop = .ok range ↔
    ∃ s e, Bound.ofText? start = .ok s ∧ Bound.ofText? stop = .ok e ∧
      (∀ b ∈ s, ∀ b' ∈ e, ¬b'.moment.rank < b.moment.rank) ∧ ⟨s.map (·.text), e.map (·.text)⟩ = range := by
  simp only [ofTexts?, Result.bind_eq_ok]
  constructor
  · rintro ⟨s, hs, e, he, h⟩
    refine ⟨s, e, hs, he, ?_⟩
    match s, e with
    | none, _ => exact ⟨nofun, Except.ok.inj h⟩
    | some s, none => exact ⟨nofun, Except.ok.inj h⟩
    | some s, some e =>
      by_cases hlt : e.moment.rank < s.moment.rank
      · cases (if_pos hlt).symm.trans h
      · refine ⟨?_, Except.ok.inj ((if_neg hlt).symm.trans h)⟩
        rintro _ ⟨⟩ _ ⟨⟩
        exact hlt
  · rintro ⟨s, e, hs, he, hle, rfl⟩
    refine ⟨s, hs, e, he, ?_⟩
    match s, e with
    | none, _ => rfl
    | some s, none => rfl
    | some s, some e => exact if_neg (hle s rfl e rfl)

theorem inOrder_iff {start stop : String} {s e : Option Bound} (hs : Bound.ofText? start = .ok s)
    (he : Bound.ofText? stop = .ok e) :
    InOrder start stop ↔ ∀ b ∈ s, ∀ b' ∈ e, ¬b'.moment.rank < b.moment.rank := by
  constructor
  · rintro h b rfl b' rfl
    have hb := (Bound.ofText?_eq_some_iff.mp hs).1
    have hb' := (Bound.ofText?_eq_some_iff.mp he).1
    rw [Moment.rank_lt_iff hb'.valid hb.valid]
    exact h _ _ hb hb'
  · intro h m n hm hn
    rw [← Moment.rank_lt_iff hn.valid hm.valid]
    have hs' := Except.ok.inj (hs.symm.trans hm.ofText?_eq)
    have he' := Except.ok.inj (he.symm.trans hn.ofText?_eq)
    have hle := h _ hs' _ he'
    exact hle

theorem exists_ofTexts?_iff {start stop : String} :
    (∃ range, ofTexts? start stop = .ok range) ↔ Readable start ∧ Readable stop ∧ InOrder start stop := by
  simp only [ofTexts?_eq_ok_iff, Bound.readable_iff]
  constructor
  · rintro ⟨-, s, e, hs, he, hle, -⟩
    exact ⟨⟨s, hs⟩, ⟨e, he⟩, (inOrder_iff hs he).mpr hle⟩
  · rintro ⟨⟨s, hs⟩, ⟨e, he⟩, horder⟩
    exact ⟨_, s, e, hs, he, (inOrder_iff hs he).mp horder, rfl⟩

/-- Two ends are in order one way or the other. -/
theorem inOrder_or_inOrder (start stop : String) : InOrder start stop ∨ InOrder stop start := by
  by_cases h : InOrder start stop
  · exact .inl h
  · right
    simp only [InOrder, not_forall, not_not] at h
    obtain ⟨m, n, hm, hn, hbefore⟩ := h
    intro n' m' hn' hm' hbefore'
    obtain rfl := hm.unique hm'
    obtain rfl := hn.unique hn'
    have := Moment.rank_lt_of_before hn.valid hm.valid hbefore
    have := Moment.rank_lt_of_before hm.valid hn.valid hbefore'
    omega

/-- They are in order both ways if they are the same moment, or one is absent. -/
theorem inOrder_and_inOrder_iff {start stop : String} :
    InOrder start stop ∧ InOrder stop start ↔ ∀ m n, Denotes start m → Denotes stop n → m = n := by
  constructor
  · rintro ⟨hforward, hback⟩ m n hm hn
    by_contra hne
    rcases Moment.before_or_before hne with hbefore | hbefore
    · exact hback n m hn hm hbefore
    · exact hforward m n hm hn hbefore
  · intro heq
    have hirrefl : ∀ {m : Moment}, m.Valid → ¬m.Before m := by
      intro m hm hbefore
      exact lt_irrefl _ (Moment.rank_lt_of_before hm hm hbefore)
    constructor
    · intro m n hm hn
      obtain rfl := heq m n hm hn
      exact hirrefl hm.valid
    · intro n m hn hm
      obtain rfl := heq m n hm hn
      exact hirrefl hm.valid

theorem ofTexts?_params {start stop : String} {range : TimeRange} (h : ofTexts? start stop = .ok range) :
    ofTexts? range.startParam range.stopParam = .ok range := by
  obtain ⟨s, e, hs, he, hle, rfl⟩ := ofTexts?_eq_ok_iff.mp h
  exact ofTexts?_eq_ok_iff.mpr ⟨s, e, Bound.ofText?_param hs, Bound.ofText?_param he, hle, rfl⟩

/-- An end is absent just if nothing but blanks is entered for it. -/
theorem eq_none_iff {start stop : String} {range : TimeRange} (h : ofTexts? start stop = .ok range) :
    (range.start = none ↔ IsBlank start) ∧ (range.stop = none ↔ IsBlank stop) := by
  obtain ⟨s, e, hs, he, -, rfl⟩ := ofTexts?_eq_ok_iff.mp h
  rw [← Bound.ofText?_eq_none_iff, ← Bound.ofText?_eq_none_iff, hs, he]
  simp

/-- A window is accepted just if either end is blank or can be read and the start is not after the end. Of two ends
that can be read one order is accepted, and both are if there are not two moments. What is accepted is accepted again
as it is sent. -/
theorem accepted_iff_inOrder_and_stable (start stop : String) :
    ((∃ range, ofTexts? start stop = .ok range) ↔ Readable start ∧ Readable stop ∧ InOrder start stop) ∧
    (∀ range, ofTexts? start stop = .ok range → (range.start = none ↔ IsBlank start) ∧
      (range.stop = none ↔ IsBlank stop)) ∧
    (Readable start → Readable stop →
      ((∃ range, ofTexts? start stop = .ok range) ∨ ∃ range, ofTexts? stop start = .ok range) ∧
      ((∃ range, ofTexts? start stop = .ok range) ∧ (∃ range, ofTexts? stop start = .ok range) ↔
        ∀ m n, Denotes start m → Denotes stop n → m = n)) ∧
    ∀ range, ofTexts? start stop = .ok range → ofTexts? range.startParam range.stopParam = .ok range := by
  refine ⟨exists_ofTexts?_iff, fun range => eq_none_iff, fun hstart hstop => ?_, fun range => ofTexts?_params⟩
  simp only [exists_ofTexts?_iff, hstart, hstop, true_and]
  exact ⟨inOrder_or_inOrder start stop, inOrder_and_inOrder_iff⟩

/-- A leap second is before the midnight after it, however they are written. -/
theorem accepted_leapSecond_before_midnight :
    (∃ range, ofTexts? "2016-12-31T23:59:60" " 2017-1-1T0:0:0Z" = .ok range ∧
      range = ⟨some "2016-12-31T23:59:60Z", some "2017-1-1T0:0:0Z"⟩ ∧
      ofTexts? range.startParam range.stopParam = .ok range) ∧
    ¬∃ range, ofTexts? " 2017-1-1T0:0:0Z" "2016-12-31T23:59:60" = .ok range := by
  obtain ⟨-, -, hboth, hagain⟩ := accepted_iff_inOrder_and_stable "2016-12-31T23:59:60" " 2017-1-1T0:0:0Z"
  have hleap : Bound.ofText? "2016-12-31T23:59:60" =
      .ok (some ⟨⟨⟨2016, 12, 31⟩, 23, 59, 60⟩, "2016-12-31T23:59:60Z"⟩) := by decide +kernel
  have hmidnight : Bound.ofText? " 2017-1-1T0:0:0Z" =
      .ok (some ⟨⟨⟨2017, 1, 1⟩, 0, 0, 0⟩, "2017-1-1T0:0:0Z"⟩) := by decide +kernel
  have hrange : ofTexts? "2016-12-31T23:59:60" " 2017-1-1T0:0:0Z" =
      .ok ⟨some "2016-12-31T23:59:60Z", some "2017-1-1T0:0:0Z"⟩ := by decide +kernel
  refine ⟨⟨_, hrange, rfl, hagain _ hrange⟩, fun hback => ?_⟩
  have hreadable := hboth (Bound.readable_iff.mpr ⟨_, hleap⟩) (Bound.readable_iff.mpr ⟨_, hmidnight⟩)
  have hsame := hreadable.2.mp ⟨⟨_, hrange⟩, hback⟩ _ _ (Bound.ofText?_eq_some_iff.mp hleap).1
    (Bound.ofText?_eq_some_iff.mp hmidnight).1
  cases hsame

end TimeRange
end SeriesExport
