import SeriesExport.CommandLine.Run
import SeriesExport.Proofs.AttributeLists
import SeriesExport.Proofs.Choices
import SeriesExport.Proofs.Grouping

/-!
# Default attributes

A group is exported with all of the catalog and all of its operators if nothing else is asked for, and this is said in
a list of attributes like those that are entered. So an operator is read as the names within it
(`AggregationGroup.attributeNames_defaultAttributes`). One with a comma or a blank is read as others than itself, and if
the group does not offer these the export is refused (`AggregationGroup.unresolved?`): `p 90` is read as `p90`.

What is wrong with the first choice of a group decides about a selection (`ExportJob.ofAggregations_eq`). So defaults
are refused for the first name that is not offered, and they give a column for every operator just if all operators are
plain (`CommandLine.aggregationJob_defaults`).
-/

namespace SeriesExport

theorem findSome?_refusal {α β : Type} (p : α → Prop) [DecidablePred p] (f : α → β) (l : List α) :
    (l.findSome? fun a => if p a then none else some (f a)) = (l.find? fun a => ¬p a).map f := by
  induction l with
  | nil => rfl
  | cons a l ih => by_cases ha : p a <;> simp [ha, ih]

/-- What is found in a list is found in the part of it in which there is something to find. -/
theorem filterMap_of_sublist {α β : Type} {f : α → Option β} {part l : List α} (hpart : part.Sublist l)
    (hl : l.Nodup) (hf : ∀ a ∈ l, a ∉ part → f a = none) : l.filterMap f = part.filterMap f := by
  induction hpart with
  | slnil => rfl
  | @cons part l a hpart ih =>
    obtain ⟨ha, hl⟩ := List.nodup_cons.mp hl
    rw [List.filterMap_cons_none (hf a List.mem_cons_self fun hmem => ha (hpart.mem hmem))]
    exact ih hl fun b hb => hf b (List.mem_cons_of_mem a hb)
  | @cons_cons part l a hpart ih =>
    obtain ⟨ha, hl⟩ := List.nodup_cons.mp hl
    have hrest : l.filterMap f = part.filterMap f := by
      refine ih hl fun b hb hnot => hf b (List.mem_cons_of_mem a hb) fun hmem => ?_
      rcases List.mem_cons.mp hmem with rfl | hmem
      · exact ha hb
      · exact hnot hmem
    rw [List.filterMap_cons, List.filterMap_cons, hrest]

/-! ## What is wrong with a choice -/

namespace AggregationGroup

/-- A list of attributes is refused if it is blank or begins with a comma, and else for the first name that is not an
attribute of the group. -/
def flaw? (g : AggregationGroup) (attributes : String) : Option ExportError :=
  match attributeNames attributes with
  | [] | "" :: _ => some (.noAttributes g.id)
  | names => (names.find? fun name => ¬g.Offers name).map .invalidAttribute

/-- What is wrong with the first choice of the group. -/
def choiceFlaw? (choices : List Choice) (g : AggregationGroup) : Option ExportError :=
  (choices.find? (·.aggregation = g.id)).bind fun c => g.flaw? c.attributes

end AggregationGroup

namespace ExportJob

theorem groupKey_eq (g : AggregationGroup) (name : String) : groupKey g name =
    (if g.Offers name then none else some (.invalidAttribute name)).elim (.ok (Catalog.aggregation.columnOf name))
      .error := by
  by_cases hname : g.Offers name
  · rw [if_pos hname]
    exact (groupKey_eq_ok_iff name _).mpr ⟨hname, rfl⟩
  · rw [if_neg hname]
    simp only [AggregationGroup.Offers, not_or] at hname
    simp [groupKey, Catalog.key?_eq_none_iff.mpr hname.1, hname.2]

theorem groupProjection_eq (g : AggregationGroup) (attributes : String) :
    groupProjection g attributes = (g.flaw? attributes).elim (.ok (attributeColumns attributes)) .error := by
  unfold groupProjection AggregationGroup.flaw? attributeColumns
  cases attributeNames attributes with
  | nil => rfl
  | cons name names =>
    by_cases hname : name = ""
    · subst hname
      rfl
    · simp only [hname, imp_self, implies_true, List.cons.injEq, false_and, findSome?_refusal,
        Result.mapM_eq_findSome? (groupKey_eq g)]

theorem groupProjection?_eq (choices : List Choice) (g : AggregationGroup) :
    groupProjection? choices g = (g.choiceFlaw? choices).elim (.ok (g.projection? choices)) .error := by
  unfold groupProjection? AggregationGroup.choiceFlaw? AggregationGroup.projection?
  cases choices.find? (·.aggregation = g.id) with
  | none => rfl
  | some c =>
    simp only [groupProjection_eq, Option.bind_some]
    cases g.flaw? c.attributes <;> rfl

/-- A selection of known aggregations is refused for the first group whose choice has something wrong with it. -/
theorem ofAggregations_eq {s : AggregationSelection} {groups : AggregationGroups} (hne : s.choices ≠ [])
    (hknown : ∀ c ∈ s.choices, ∃ g ∈ groups, g.id = c.aggregation) :
    ofAggregations s groups = (groups.findSome? (·.choiceFlaw? s.choices)).elim
      ((rangeOf s.toOptions).map fun range =>
        ⟨.aggregations (groups.filterMap (·.projection? s.choices)), range, s.layout, s.timeFormat⟩) .error := by
  rw [ofAggregations, if_neg hne, find?_unknown_eq_none_iff.mpr hknown]
  simp only [Result.mapM_eq_findSome? (groupProjection?_eq s.choices)]
  cases groups.findSome? (·.choiceFlaw? s.choices) with
  | some cause => rfl
  | none =>
    have hprojections : (groups.map (·.projection? s.choices)).filterMap id =
        groups.filterMap (·.projection? s.choices) := List.filterMap_map
    rw [← hprojections]
    cases rangeOf s.toOptions <;> rfl

end ExportJob

/-! ## Default attributes of a group -/

namespace AggregationGroup

/-- The first name within the operators of the group that it does not offer. -/
def unresolved? (g : AggregationGroup) : Option String :=
  (g.operators.flatMap namesWithin).find? fun name => ¬g.Offers name

/-- All of the group: the columns of the catalog, and one for each operator. -/
def whole (g : AggregationGroup) : AggregationProjection :=
  ⟨g.id, g.sources, Catalog.aggregation.keys ++ g.operators.map Catalog.aggregation.columnOf⟩

/-- What the default attributes of the group come to. -/
def byDefault (g : AggregationGroup) : AggregationProjection := ⟨g.id, g.sources, attributeColumns g.defaultAttributes⟩

theorem attributeNames_defaultAttributes (g : AggregationGroup) :
    attributeNames g.defaultAttributes = Catalog.aggregation.names ++ g.operators.flatMap namesWithin := by
  have hne : Catalog.aggregation.names ++ g.operators ≠ [] := List.cons_ne_nil _ _
  have hvisible : ∃ c ∈ g.defaultAttributes.toList, Text.isBlank c = false := by
    refine ⟨'n', ?_, by decide⟩
    rw [defaultAttributes, String.toList_intercalate]
    exact List.mem_flatten.mpr ⟨"name".toList, List.mem_cons_self, by decide⟩
  have hnames : Catalog.aggregation.names.flatMap namesWithin = Catalog.aggregation.names :=
    flatMap_namesWithin (by decide +kernel)
  rw [attributeNames_eq_namesWithin hvisible, defaultAttributes, namesWithin_intercalate hne, List.flatMap_append,
    hnames]

/-- The names of the catalog are offered by every group, so only operators can be refused. -/
theorem flaw?_defaultAttributes (g : AggregationGroup) :
    g.flaw? g.defaultAttributes = g.unresolved?.map .invalidAttribute := by
  have hcatalog : Catalog.aggregation.names.find? (fun name => ¬g.Offers name) = none := by
    rw [List.find?_eq_none]
    intro name hname
    simp [Offers, hname]
  have hfind : (Catalog.aggregation.names ++ g.operators.flatMap namesWithin).find? (fun name => ¬g.Offers name) =
      g.unresolved? := by
    rw [List.find?_append, hcatalog]
    rfl
  rw [flaw?, attributeNames_defaultAttributes, ← hfind]
  rfl

/-! ### Plain operators -/

theorem unresolved?_of_isPlain {g : AggregationGroup} (h : ∀ operator ∈ g.operators, IsPlain operator) :
    g.unresolved? = none := by
  rw [unresolved?, flatMap_namesWithin h, List.find?_eq_none]
  intro name hname
  simp [Offers, hname]

end AggregationGroup

/-- All names and keys of the catalog are plain, so a column is plain just if what it is called is. -/
theorem isPlain_columnOf_iff {name : String} : IsPlain (Catalog.aggregation.columnOf name) ↔ IsPlain name := by
  by_cases hname : name ∈ Catalog.aggregation.names
  · have hboth : ∀ name ∈ Catalog.aggregation.names, IsPlain (Catalog.aggregation.columnOf name) ∧ IsPlain name := by
      decide +kernel
    simp [hboth name hname]
  · rw [Catalog.columnOf_of_not_mem hname]

theorem AggregationGroup.byDefault_eq_whole_iff {g : AggregationGroup} :
    g.byDefault = g.whole ↔ ∀ operator ∈ g.operators, IsPlain operator := by
  have hcolumns : g.byDefault.attributes = Catalog.aggregation.keys ++
      (g.operators.flatMap namesWithin).map Catalog.aggregation.columnOf := by
    rw [byDefault, attributeColumns, attributeNames_defaultAttributes, List.map_append]
    rfl
  constructor
  · intro h operator hoperator
    rw [h] at hcolumns
    have hmem : Catalog.aggregation.columnOf operator ∈
        (g.operators.flatMap namesWithin).map Catalog.aggregation.columnOf := by
      rw [← List.append_cancel_left hcolumns]
      exact List.mem_map_of_mem hoperator
    obtain ⟨part, hpart, hcolumn⟩ := List.mem_map.mp hmem
    obtain ⟨_, -, hwithin⟩ := List.mem_flatMap.mp hpart
    rw [← isPlain_columnOf_iff, ← hcolumn, isPlain_columnOf_iff]
    exact isPlain_of_mem_namesWithin hwithin
  · intro h
    rw [flatMap_namesWithin h] at hcolumns
    rw [whole, ← hcolumns]
    rfl

/-! ## Default choices -/

section

variable {chosen groups : AggregationGroups}

theorem find?_defaultChoices (hids : (groups.map AggregationGroup.id).Nodup) (hchosen : chosen.Sublist groups)
    {g : AggregationGroup} (hg : g ∈ groups) : (defaultChoices chosen).find? (·.aggregation = g.id) =
      if g ∈ chosen then some ⟨g.id, g.defaultAttributes⟩ else none := by
  have haggregations : (defaultChoices chosen).map Choice.aggregation = chosen.map AggregationGroup.id := by
    rw [defaultChoices, List.map_map]
    rfl
  have hdistinct : ((defaultChoices chosen).map Choice.aggregation).Nodup := by
    rw [haggregations]
    exact hids.sublist (hchosen.map _)
  by_cases hmem : g ∈ chosen
  · rw [if_pos hmem, find?_eq_some_iff_of_nodup hdistinct]
    exact ⟨List.mem_map_of_mem hmem, rfl⟩
  · rw [if_neg hmem, List.find?_eq_none]
    intro c hc hid
    obtain ⟨g', hg', rfl⟩ := List.mem_map.mp hc
    have hsame : g' = g := List.inj_on_of_nodup_map hids (hchosen.mem hg') hg (of_decide_eq_true hid)
    exact hmem (hsame ▸ hg')

/-- Groups that are chosen with their default attributes. -/
theorem ExportJob.ofAggregations_defaultChoices (hids : (groups.map AggregationGroup.id).Nodup)
    (hchosen : chosen.Sublist groups) (hne : chosen ≠ []) (options : Options) :
    ofAggregations { toOptions := options, choices := defaultChoices chosen } groups =
      (chosen.findSome? AggregationGroup.unresolved?).elim
        ((rangeOf options).map fun range =>
          ⟨.aggregations (chosen.map AggregationGroup.byDefault), range, options.layout, options.timeFormat⟩)
        fun name => .error (.invalidAttribute name) := by
  have hknown : ∀ c ∈ defaultChoices chosen, ∃ g ∈ groups, g.id = c.aggregation := by
    intro c hc
    obtain ⟨g, hg, rfl⟩ := List.mem_map.mp hc
    exact ⟨g, hchosen.mem hg, rfl⟩
  have hgroups : groups.Nodup := hids.of_map _
  have hfind : ∀ g ∈ groups, g ∉ chosen → (defaultChoices chosen).find? (·.aggregation = g.id) = none := by
    intro g hg hnot
    rw [find?_defaultChoices hids hchosen hg, if_neg hnot]
  have hfind' : ∀ g ∈ chosen,
      (defaultChoices chosen).find? (·.aggregation = g.id) = some ⟨g.id, g.defaultAttributes⟩ := by
    intro g hg
    rw [find?_defaultChoices hids hchosen (hchosen.mem hg), if_pos hg]
  have hflaws : groups.filterMap (·.choiceFlaw? (defaultChoices chosen)) =
      chosen.filterMap fun g => g.unresolved?.map .invalidAttribute := by
    have hnone : ∀ g ∈ groups, g ∉ chosen → g.choiceFlaw? (defaultChoices chosen) = none := by
      intro g hg hnot
      rw [AggregationGroup.choiceFlaw?, hfind g hg hnot]
      rfl
    rw [filterMap_of_sublist hchosen hgroups hnone]
    refine List.filterMap_congr fun g hg => ?_
    rw [AggregationGroup.choiceFlaw?, hfind' g hg]
    exact g.flaw?_defaultAttributes
  have hflaw : groups.findSome? (·.choiceFlaw? (defaultChoices chosen)) =
      (chosen.findSome? AggregationGroup.unresolved?).map .invalidAttribute := by
    rw [← List.head?_filterMap, hflaws, List.head?_filterMap, List.map_findSome?]
    rfl
  have hprojections : groups.filterMap (·.projection? (defaultChoices chosen)) =
      chosen.map AggregationGroup.byDefault := by
    have hnone : ∀ g ∈ groups, g ∉ chosen → g.projection? (defaultChoices chosen) = none := by
      intro g hg hnot
      rw [AggregationGroup.projection?, hfind g hg hnot]
      rfl
    rw [filterMap_of_sublist hchosen hgroups hnone, ← List.filterMap_eq_map]
    refine List.filterMap_congr fun g hg => ?_
    rw [AggregationGroup.projection?, hfind' g hg]
    rfl
  have hchoices : defaultChoices chosen ≠ [] := by simpa [defaultChoices] using hne
  rw [ofAggregations_eq hchoices hknown]
  dsimp only
  rw [hflaw, hprojections]
  cases chosen.findSome? AggregationGroup.unresolved? <;> rfl

/-- All operators are read as themselves. -/
def AggregationGroups.Plain (groups : AggregationGroups) : Prop :=
  ∀ g ∈ groups, ∀ operator ∈ g.operators, IsPlain operator

theorem findSome?_unresolved?_of_plain (h : chosen.Plain) : chosen.findSome? AggregationGroup.unresolved? = none := by
  rw [List.findSome?_eq_none_iff]
  intro g hg
  exact AggregationGroup.unresolved?_of_isPlain (h g hg)

theorem map_byDefault_eq_iff : chosen.map AggregationGroup.byDefault = chosen.map AggregationGroup.whole ↔
    chosen.Plain := by
  rw [List.map_inj_left]
  exact forall₂_congr fun g _ => AggregationGroup.byDefault_eq_whole_iff

/-- What becomes of groups that are chosen with their default attributes: they are refused for a name that is not
offered, and they are exported as a whole just if their operators are plain. -/
structure ExportJob.Resolves (options : Options) (chosen : AggregationGroups) (job : Result ExportJob) : Prop where
  invalidAttribute : ∀ name,
    job = .error (.invalidAttribute name) ↔ chosen.findSome? AggregationGroup.unresolved? = some name
  accepted : chosen.Plain → ∀ name, job ≠ .error (.invalidAttribute name)
  whole : ∀ range, rangeOf options = .ok range →
    (job = .ok ⟨.aggregations (chosen.map AggregationGroup.whole), range, options.layout, options.timeFormat⟩ ↔
      chosen.Plain)

theorem ExportJob.resolves_defaultChoices (hids : (groups.map AggregationGroup.id).Nodup)
    (hchosen : chosen.Sublist groups) (hne : chosen ≠ []) (options : Options) :
    Resolves options chosen (ofAggregations { toOptions := options, choices := defaultChoices chosen } groups) := by
  have hjob := ofAggregations_defaultChoices hids hchosen hne options
  have hinvalid : ∀ name, ofAggregations { toOptions := options, choices := defaultChoices chosen } groups =
      .error (.invalidAttribute name) ↔ chosen.findSome? AggregationGroup.unresolved? = some name := by
    intro name
    rw [hjob]
    cases chosen.findSome? AggregationGroup.unresolved? with
    | some name' => simp
    | none =>
      cases hrange : rangeOf options with
      | ok range => simp [Except.map]
      | error cause =>
        obtain ⟨flaw, -, rfl⟩ := rangeOf_eq_error_iff.mp hrange
        simp [Except.map]
  refine ⟨hinvalid, fun hplain name h => ?_, fun range hrange => ⟨fun h => ?_, fun hplain => ?_⟩⟩
  · rw [hinvalid, findSome?_unresolved?_of_plain hplain] at h
    cases h
  · rw [hjob] at h
    cases hunresolved : chosen.findSome? AggregationGroup.unresolved? with
    | some name => rw [hunresolved] at h; cases h
    | none =>
      rw [hunresolved, hrange] at h
      have htarget := congrArg ExportJob.target (Except.ok.inj h)
      exact map_byDefault_eq_iff.mp (Target.aggregations.inj htarget)
  · rw [hjob, findSome?_unresolved?_of_plain hplain, hrange, map_byDefault_eq_iff.mpr hplain]
    rfl

end

/-! ## The defaults of the program -/

namespace CommandLine

theorem aggregationJob_of_groups {listed : List DataSource} {groups : AggregationGroups}
    (h : groupAggregations listed = .ok groups) (options : Options) : aggregationJob options [] listed =
      ExportJob.ofAggregations { toOptions := options, choices := defaultChoices groups } groups := by
  rw [aggregationJob, h]
  rfl

/-- **Defaults resolve just if operators are plain.** For groups as sources give them, any of the groups may be chosen
with their default attributes, or all of them by choosing none. The export is refused for the first name within the
operators that is not offered. It has the columns of the catalog and one for each operator just if every operator is
plain. -/
theorem aggregationJob_defaults {listed : List DataSource} {groups : AggregationGroups}
    (h : groupAggregations listed = .ok groups) (options : Options) :
    (∀ chosen : AggregationGroups, chosen.Sublist groups → chosen ≠ [] → ExportJob.Resolves options chosen
      (ExportJob.ofAggregations { toOptions := options, choices := defaultChoices chosen } groups)) ∧
    (groups ≠ [] → ExportJob.Resolves options groups (aggregationJob options [] listed)) ∧
    (groups = [] → aggregationJob options [] listed = .error .noAggregationsSelected) := by
  have hids := (AggregationGroups.wellFormed_ofSources h).nodup_ids
  rw [aggregationJob_of_groups h]
  refine ⟨fun chosen hchosen hne => ExportJob.resolves_defaultChoices hids hchosen hne options,
    fun hne => ExportJob.resolves_defaultChoices hids (List.Sublist.refl groups) hne options, ?_⟩
  rintro rfl
  rfl

/-- A source with an operator that has a blank in it. -/
def percentiles : List DataSource := [⟨"s", [⟨"m", ["p 90"], "1h", ""⟩], []⟩]

/-- The operator is asked for without its blank, and there is none like that. -/
theorem aggregationJob_defaults_percentiles :
    groupAggregations percentiles = .ok [⟨"m", ["p 90"], "1h", .infinite, ["s"]⟩] ∧
      aggregationJob {} [] percentiles = .error (.invalidAttribute "p90") := by
  have hgroups : groupAggregations percentiles = .ok [⟨"m", ["p 90"], "1h", .infinite, ["s"]⟩] := by decide +kernel
  have hresolves := (aggregationJob_defaults hgroups {}).2.1 (List.cons_ne_nil _ _)
  exact ⟨hgroups, (hresolves.invalidAttribute "p90").mpr (by decide +kernel)⟩

end CommandLine
end SeriesExport
