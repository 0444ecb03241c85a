import SeriesExport.Job

/-!
# Selections that are refused

What can be wrong with a selection of raw data: its attributes (none at all, or one that is not in the catalog) or its
window (an end that is no time, or a start after the end). `DataSelection.Invalid` says that something is, and
`DataSelection.Flaw` what it is that is reported: attributes are looked at before the window, and the start before the
end. A job is refused for its flaw and for nothing else (`ExportJob.ofData_eq_error_iff`).
-/

namespace SeriesExport

/-! ## Windows -/

/-- What is reported of two texts that are not a range. -/
inductive TimeRange.Refused (start stop : String) : TimeRange.Flaw → Prop
  | start {flaw : TimeRange.Flaw} : Bound.ofText? start = .error flaw → Refused start stop flaw
  | stop {bound : Option Bound} {flaw : TimeRange.Flaw} : Bound.ofText? start = .ok bound →
      Bound.ofText? stop = .error flaw → Refused start stop flaw
  | inverted {s e : Bound} : Bound.ofText? start = .ok (some s) → Bound.ofText? stop = .ok (some e) →
      e.moment.rank < s.moment.rank → Refused start stop (.inverted s.moment e.moment)

theorem TimeRange.ofTexts?_eq_error_iff {start stop : String} {flaw : TimeRange.Flaw} :
    TimeRange.ofTexts? start stop = .error flaw ↔ TimeRange.Refused start stop flaw := by
  constructor
  · intro h
    unfold ofTexts? at h
    cases hstart : Bound.ofText? start with
    | error flaw' =>
      rw [hstart] at h
      obtain rfl : flaw' = flaw := Except.error.inj h
      exact .start hstart
    | ok s =>
      cases hstop : Bound.ofText? stop with
      | error flaw' =>
        rw [hstart, hstop] at h
        obtain rfl : flaw' = flaw := Except.error.inj h
        exact .stop hstart hstop
      | ok e =>
        rw [hstart, hstop] at h
        match s, e with
        | none, _ => cases h
        | some s, none => cases h
        | some s, some e =>
          by_cases hlt : e.moment.rank < s.moment.rank
          · obtain rfl : TimeRange.Flaw.inverted s.moment e.moment = flaw := Except.error.inj ((if_pos hlt).symm.trans h)
            exact .inverted hstart hstop hlt
          · cases (if_neg hlt).symm.trans h
  · rintro (hstart | ⟨hstart, hstop⟩ | ⟨hstart, hstop, hlt⟩)
    · rw [ofTexts?, hstart]
      rfl
    · rw [ofTexts?, hstart, hstop]
      rfl
    · rw [ofTexts?, hstart, hstop]
      exact if_pos hlt

/-! ## Attributes -/

namespace Catalog

theorem key?_eq_none_iff {c : Catalog} {name : String} : c.key? name = none ↔ name ∉ c.names := by
  rw [key?, List.lookup_eq_none_iff, names, List.mem_map]
  constructor
  · rintro h ⟨entry, hentry, rfl⟩
    simpa using h entry hentry
  · intro h entry hentry
    simpa using fun heq => h ⟨entry, hentry, heq.symm⟩

theorem mem_entries_of_key? {c : Catalog} {name key : String} (h : c.key? name = some key) :
    (name, key) ∈ c.entries := by
  obtain ⟨front, back, hentries, -⟩ := List.lookup_eq_some_iff.mp h
  rw [hentries]
  exact List.mem_append_right _ List.mem_cons_self

theorem mem_names_of_key? {c : Catalog} {name key : String} (h : c.key? name = some key) : name ∈ c.names :=
  List.mem_map_of_mem (mem_entries_of_key? h)

/-- The first name that is not in the catalog. -/
def unknown? (c : Catalog) (names : List String) : Option String := names.find? (· ∉ c.names)

/-- A list of names is refused for the first that is not in the catalog. -/
theorem project_eq (c : Catalog) : ∀ names : List String, c.project names = match c.unknown? names with
    | some name => .error (.invalidAttribute name)
    | none => .ok (names.filterMap c.key?)
  | [] => rfl
  | name :: names => by
    have ih := project_eq c names
    rw [project] at ih ⊢
    rw [List.mapM_cons, ih, unknown?, unknown?]
    by_cases hmem : name ∈ c.names
    · obtain ⟨key, hkey⟩ := Option.ne_none_iff_exists'.mp fun h => key?_eq_none_iff.mp h hmem
      rw [List.find?_cons_of_neg (by simpa using hmem), List.filterMap_cons_some hkey, hkey]
      cases List.find? (fun name => decide (name ∉ c.names)) names <;> rfl
    · rw [List.find?_cons_of_pos (by simpa using hmem), key?_eq_none_iff.mpr hmem]
      rfl

end Catalog

/-! ## Selections -/

namespace DataSelection

/-- Something is wrong with the attributes or with the window. -/
inductive Invalid (s : DataSelection) : Prop
  | noAttributes : attributeNames s.attributes = [] → Invalid s
  | unknownAttribute {name : String} : name ∈ attributeNames s.attributes → name ∉ Catalog.data.names → Invalid s
  | malformedStart {flaw : TimeRange.Flaw} : Bound.ofText? s.start = .error flaw → Invalid s
  | malformedStop {flaw : TimeRange.Flaw} : Bound.ofText? s.stop = .error flaw → Invalid s
  | inverted {start stop : Bound} : Bound.ofText? s.start = .ok (some start) → Bound.ofText? s.stop = .ok (some stop) →
      stop.moment.rank < start.moment.rank → Invalid s

/-- What is reported of it: the attributes come first. -/
inductive Flaw (s : DataSelection) : ExportError → Prop
  | noAttributes : attributeNames s.attributes = [] → Flaw s (.invalidAttribute "")
  | unknownAttribute {name : String} : Catalog.data.unknown? (attributeNames s.attributes) = some name →
      Flaw s (.invalidAttribute name)
  | window {flaw : TimeRange.Flaw} : attributeNames s.attributes ≠ [] →
      Catalog.data.unknown? (attributeNames s.attributes) = none → TimeRange.Refused s.start s.stop flaw →
      Flaw s (.invalidTimeRange flaw)

/-- Whatever is wrong, something is reported. -/
theorem Invalid.exists_flaw {s : DataSelection} (h : s.Invalid) : ∃ cause, s.Flaw cause := by
  by_cases hnames : attributeNames s.attributes = []
  · exact ⟨_, .noAttributes hnames⟩
  cases hunknown : Catalog.data.unknown? (attributeNames s.attributes) with
  | some name => exact ⟨_, .unknownAttribute hunknown⟩
  | none =>
    have hwindow : ∃ flaw, TimeRange.Refused s.start s.stop flaw := by
      cases h with
      | noAttributes hempty => exact absurd hempty hnames
      | unknownAttribute hmem hname =>
        exact absurd hname (by simpa using List.find?_eq_none.mp hunknown _ hmem)
      | malformedStart hstart => exact ⟨_, .start hstart⟩
      | malformedStop hstop =>
        cases hstart : Bound.ofText? s.start with
        | error flaw => exact ⟨flaw, .start hstart⟩
        | ok bound => exact ⟨_, .stop hstart hstop⟩
      | inverted hstart hstop hlt => exact ⟨_, .inverted hstart hstop hlt⟩
    obtain ⟨flaw, hflaw⟩ := hwindow
    exact ⟨_, .window hnames hunknown hflaw⟩

/-- It does not matter which sources are selected. -/
theorem Flaw.withSources {s : DataSelection} {cause : ExportError} (h : s.Flaw cause) (sources : List String) :
    { s with sources }.Flaw cause := by
  cases h with
  | noAttributes hnames => exact .noAttributes hnames
  | unknownAttribute hunknown => exact .unknownAttribute hunknown
  | window hnames hunknown hflaw => exact .window hnames hunknown hflaw

end DataSelection

namespace ExportJob

theorem rangeOf_eq_error_iff {o : Options} {cause : ExportError} :
    rangeOf o = .error cause ↔ ∃ flaw, TimeRange.Refused o.start o.stop flaw ∧ cause = .invalidTimeRange flaw := by
  simp only [← TimeRange.ofTexts?_eq_error_iff, rangeOf]
  cases TimeRange.ofTexts? o.start o.stop with
  | error flaw => simp [eq_comm]
  | ok range => simp

/-- What becomes of a selection in a layout for raw data. -/
theorem ofData_eq {s : DataSelection} (hlayout : s.layout ≠ .perAggregation) :
    ofData s = match attributeNames s.attributes with
      | [] => .error (.invalidAttribute "")
      | names => match Catalog.data.unknown? names with
        | some name => .error (.invalidAttribute name)
        | none => (rangeOf s.toOptions).map fun range =>
            ⟨.raw s.sources (names.filterMap Catalog.data.key?), range, s.layout, s.timeFormat⟩ := by
  rw [ofData, if_neg hlayout]
  cases attributeNames s.attributes with
  | nil => rfl
  | cons first names =>
    simp only [Catalog.project_eq]
    cases Catalog.data.unknown? (first :: names) with
    | some name => rfl
    | none => cases rangeOf s.toOptions <;> rfl

/-- A job of raw data in a layout for raw data is refused for the flaw of its selection. -/
theorem ofData_eq_error_iff {s : DataSelection} (hlayout : s.layout ≠ .perAggregation) {cause : ExportError} :
    ofData s = .error cause ↔ s.Flaw cause := by
  rw [ofData_eq hlayout]
  constructor
  · intro h
    cases hnames : attributeNames s.attributes with
    | nil =>
      rw [hnames] at h
      obtain rfl : ExportError.invalidAttribute "" = cause := Except.error.inj h
      exact .noAttributes hnames
    | cons first names =>
      rw [hnames] at h
      cases hunknown : Catalog.data.unknown? (first :: names) with
      | some name =>
        simp only [hunknown] at h
        obtain rfl : ExportError.invalidAttribute name = cause := Except.error.inj h
        exact .unknownAttribute (hnames ▸ hunknown)
      | none =>
        simp only [hunknown] at h
        cases hrange : rangeOf s.toOptions with
        | ok range => simp [hrange, Except.map] at h
        | error cause' =>
          rw [hrange] at h
          obtain rfl : cause' = cause := Except.error.inj h
          obtain ⟨flaw, hflaw, rfl⟩ := rangeOf_eq_error_iff.mp hrange
          exact .window (by simp [hnames]) (hnames ▸ hunknown) hflaw
  · rintro (hnames | hunknown | ⟨hnames, hunknown, hflaw⟩)
    · rw [hnames]
    · cases hnames : attributeNames s.attributes with
      | nil => rw [hnames] at hunknown; cases hunknown
      | cons first names => simp only [← hnames, hunknown]
    · have hrange := rangeOf_eq_error_iff.mpr ⟨_, hflaw, rfl⟩
      cases hnames' : attributeNames s.attributes with
      | nil => exact absurd hnames' hnames
      | cons first names => simp only [← hnames', hunknown, hrange]; rfl

end ExportJob

end SeriesExport
