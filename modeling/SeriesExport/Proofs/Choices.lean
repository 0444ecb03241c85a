import SeriesExport.Proofs.Grouping
import SeriesExport.Proofs.Selection

/-!
# What becomes of the choices

A group accepts a list of attributes if the first name is not empty and each name is one of the catalog or an operator
of the group (`AggregationGroup.Accepts`). Then the columns are the keys of the names (`attributeColumns`).

Each group looks for the first choice of its aggregation (`AggregationGroup.projection?`). A job is built just if
every choice is of a group, every group accepts what it finds and the window is a range
(`ExportJob.ofAggregations_eq_ok_iff`), and its tasks are those of the groups with their choices
(`ExportJob.tasks_of_ofAggregations`). So a choice of what is chosen before it is not looked at
(`ExportJob.ofAggregations_of_repeated`), and the order of choices of different aggregations does not matter
(`ExportJob.ofAggregations_of_perm`).
-/

namespace SeriesExport

/-! ## Attributes of a group -/

/-- The key of a name, or the name itself if the catalog does not have it. -/
def Catalog.columnOf (c : Catalog) (name : String) : String := (c.key? name).getD name

theorem Catalog.columnOf_of_key? {c : Catalog} {name key : String} (h : c.key? name = some key) :
    c.columnOf name = key := by
  rw [columnOf, h, Option.getD_some]

theorem Catalog.columnOf_of_not_mem {c : Catalog} {name : String} (h : name ∉ c.names) : c.columnOf name = name := by
  rw [columnOf, key?_eq_none_iff.mpr h, Option.getD_none]

/-- The columns that a list of attributes asks for. -/
def attributeColumns (attributes : String) : Projection :=
  (attributeNames attributes).map Catalog.aggregation.columnOf

namespace AggregationGroup

/-- The name is an attribute of the group: one of the catalog, or an operator of the group. -/
def Offers (g : AggregationGroup) (name : String) : Prop :=
  name ∈ Catalog.aggregation.names ∨ name ∈ g.operators

instance (g : AggregationGroup) : DecidablePred g.Offers := fun _ => inferInstanceAs (Decidable (_ ∨ _))

/-- The first name of the list is not empty, and every name is an attribute of the group. -/
structure Accepts (g : AggregationGroup) (attributes : String) : Prop where
  first : ∃ name names, attributeNames attributes = name :: names ∧ name ≠ ""
  offers : ∀ name ∈ attributeNames attributes, g.Offers name

/-- The tasks of the group for a choice: one for each of its sources. -/
def tasksFor (g : AggregationGroup) (c : Choice) : List FetchTask :=
  g.sources.map fun source => ⟨.aggregation g.id source, attributeColumns c.attributes⟩

/-- What a job takes of the group: its sources, and the columns of the first choice of its aggregation. -/
def projection? (choices : List Choice) (g : AggregationGroup) : Option AggregationProjection :=
  (choices.find? (·.aggregation = g.id)).map fun c => ⟨g.id, g.sources, attributeColumns c.attributes⟩

end AggregationGroup

namespace ExportJob

theorem groupKey_eq_ok_iff {g : AggregationGroup} (name key : String) :
    groupKey g name = .ok key ↔ g.Offers name ∧ key = Catalog.aggregation.columnOf name := by
  unfold groupKey AggregationGroup.Offers
  cases hkey : Catalog.aggregation.key? name with
  | some key' =>
    have hname : name ∈ Catalog.aggregation.names := Catalog.mem_names_of_key? hkey
    simp [hname, Catalog.columnOf_of_key? hkey, eq_comm]
  | none =>
    have hname : name ∉ Catalog.aggregation.names := Catalog.key?_eq_none_iff.mp hkey
    rw [Catalog.columnOf_of_not_mem hname]
    by_cases hoperator : name ∈ g.operators <;> simp [hname, hoperator, eq_comm]

theorem groupProjection_eq_ok_iff {g : AggregationGroup} {attributes : String} {projection : Projection} :
    groupProjection g attributes = .ok projection ↔ g.Accepts attributes ∧ projection = attributeColumns attributes := by
  unfold groupProjection
  split
  · next hnames =>
    constructor
    · nofun
    · rintro ⟨⟨⟨name, names, hfirst, -⟩, -⟩, -⟩
      rw [hnames] at hfirst
      cases hfirst
  · next hnames =>
    constructor
    · nofun
    · rintro ⟨⟨⟨name, names, hfirst, hne⟩, -⟩, -⟩
      rw [hnames] at hfirst
      exact absurd (List.cons.inj hfirst).1.symm hne
  · next hempty hblank =>
    rw [Result.mapM_eq_ok_iff groupKey_eq_ok_iff]
    have hfirst : ∃ name names, attributeNames attributes = name :: names ∧ name ≠ "" := by
      cases hnames : attributeNames attributes with
      | nil => exact absurd hnames hempty
      | cons name names => exact ⟨name, names, rfl, fun hname => hblank names (hname ▸ hnames)⟩
    constructor
    · rintro ⟨hoffers, hprojection⟩
      exact ⟨⟨hfirst, hoffers⟩, hprojection⟩
    · rintro ⟨haccepts, hprojection⟩
      exact ⟨haccepts.offers, hprojection⟩

theorem groupProjection?_eq_ok_iff {choices : List Choice} (g : AggregationGroup) (p? : Option AggregationProjection) :
    groupProjection? choices g = .ok p? ↔
      (∀ c, choices.find? (·.aggregation = g.id) = some c → g.Accepts c.attributes) ∧ p? = g.projection? choices := by
  unfold groupProjection? AggregationGroup.projection?
  cases choices.find? (·.aggregation = g.id) with
  | none =>
    constructor
    · intro h
      exact ⟨nofun, (Except.ok.inj h).symm⟩
    · rintro ⟨-, rfl⟩
      rfl
  | some c =>
    constructor
    · intro h
      obtain ⟨projection, hprojection, h⟩ := Result.bind_eq_ok.mp h
      obtain ⟨haccepts, rfl⟩ := groupProjection_eq_ok_iff.mp hprojection
      exact ⟨fun c' hc' => Option.some.inj hc' ▸ haccepts, (Except.ok.inj h).symm⟩
    · rintro ⟨haccepts, rfl⟩
      exact Result.bind_eq_ok.mpr ⟨_, groupProjection_eq_ok_iff.mpr ⟨haccepts c rfl, rfl⟩, rfl⟩

/-! ## Jobs -/

theorem rangeOf_eq_ok_iff {o : Options} {range : TimeRange} :
    rangeOf o = .ok range ↔ TimeRange.ofTexts? o.start o.stop = .ok range := by
  unfold rangeOf
  cases TimeRange.ofTexts? o.start o.stop <;> simp

/-- No choice is of an unknown aggregation just if there is a group for each. -/
theorem find?_unknown_eq_none_iff {choices : List Choice} {groups : AggregationGroups} :
    (choices.find? fun c => (groups.get? c.aggregation).isNone) = none ↔
      ∀ c ∈ choices, ∃ g ∈ groups, g.id = c.aggregation := by
  rw [List.find?_eq_none]
  refine forall₂_congr fun c _ => ?_
  rw [AggregationGroups.get?, Option.isNone_iff_eq_none, List.find?_eq_none]
  simp

/-- All that it takes to build a job of aggregations, and what the job is. -/
theorem ofAggregations_eq_ok_iff {s : AggregationSelection} {groups : AggregationGroups} {job : ExportJob} :
    ofAggregations s groups = .ok job ↔ s.choices ≠ [] ∧ (∀ c ∈ s.choices, ∃ g ∈ groups, g.id = c.aggregation) ∧
      (∀ g ∈ groups, ∀ c, s.choices.find? (·.aggregation = g.id) = some c → g.Accepts c.attributes) ∧
      ∃ range, TimeRange.ofTexts? s.start s.stop = .ok range ∧
        job = ⟨.aggregations (groups.filterMap (·.projection? s.choices)), range, s.layout, s.timeFormat⟩ := by
  unfold ofAggregations
  by_cases hempty : s.choices = []
  · rw [if_pos hempty]
    exact ⟨nofun, fun ⟨hne, _⟩ => absurd hempty hne⟩
  rw [if_neg hempty]
  cases hunknown : s.choices.find? fun c => (groups.get? c.aggregation).isNone with
  | some unknown =>
    constructor
    · nofun
    · rintro ⟨-, hknown, -⟩
      rw [find?_unknown_eq_none_iff.mpr hknown] at hunknown
      cases hunknown
  | none =>
    have hknown := find?_unknown_eq_none_iff.mp hunknown
    have hmap : groups.filterMap (·.projection? s.choices) =
        (groups.map (·.projection? s.choices)).filterMap id := by
      rw [List.filterMap_map]
      rfl
    rw [hmap]
    constructor
    · intro h
      obtain ⟨projections, hprojections, h⟩ := Result.bind_eq_ok.mp h
      obtain ⟨range, hrange, h⟩ := Result.bind_eq_ok.mp h
      obtain ⟨haccepts, rfl⟩ := (Result.mapM_eq_ok_iff groupProjection?_eq_ok_iff).mp hprojections
      exact ⟨hempty, hknown, haccepts, range, rangeOf_eq_ok_iff.mp hrange, (Except.ok.inj h).symm⟩
    · rintro ⟨-, -, haccepts, range, hrange, rfl⟩
      have hprojections := (Result.mapM_eq_ok_iff groupProjection?_eq_ok_iff).mpr ⟨haccepts, rfl⟩
      exact Result.bind_eq_ok.mpr ⟨_, hprojections, Result.bind_eq_ok.mpr ⟨range, rangeOf_eq_ok_iff.mpr hrange, rfl⟩⟩

/-- The tasks of a job, group by group: those for the choice that the group finds. -/
theorem tasks_of_ofAggregations {s : AggregationSelection} {groups : AggregationGroups} {job : ExportJob}
    (h : ofAggregations s groups = .ok job) : job.tasks =
      groups.flatMap fun g => (s.choices.find? (·.aggregation = g.id)).toList.flatMap g.tasksFor := by
  obtain ⟨-, -, -, range, -, rfl⟩ := ofAggregations_eq_ok_iff.mp h
  show (groups.filterMap (·.projection? s.choices)).flatMap aggregationTasks = _
  rw [List.filterMap_eq_flatMap_toList, List.flatMap_assoc]
  refine List.flatMap_congr fun g _ => ?_
  unfold AggregationGroup.projection?
  cases s.choices.find? (·.aggregation = g.id) with
  | none => rfl
  | some c => rfl

/-- A selection counts only by what is found in its choices: the first of each aggregation, and the first unknown. -/
theorem ofAggregations_congr {s : AggregationSelection} {choices : List Choice} {groups : AggregationGroups}
    (hempty : choices = [] ↔ s.choices = [])
    (hunknown : (choices.find? fun c => (groups.get? c.aggregation).isNone) =
      s.choices.find? fun c => (groups.get? c.aggregation).isNone)
    (hfind : ∀ id, choices.find? (·.aggregation = id) = s.choices.find? (·.aggregation = id)) :
    ofAggregations { s with choices } groups = ofAggregations s groups := by
  have hprojection : groupProjection? choices = groupProjection? s.choices := by
    funext g
    rw [groupProjection?, groupProjection?, hfind]
  simp only [ofAggregations, hempty, hunknown, hprojection]

end ExportJob

/-! ## Choices of one aggregation -/

/-- A choice of what is chosen before it is not found. -/
theorem find?_of_repeated {front back : List Choice} {c : Choice} (h : c.aggregation ∈ front.map Choice.aggregation)
    (q : String → Bool) :
    (front ++ back).find? (fun c => q c.aggregation) = (front ++ c :: back).find? fun c => q c.aggregation := by
  rw [List.find?_append, List.find?_append]
  cases hfront : front.find? fun c => q c.aggregation with
  | some found => rfl
  | none =>
    obtain ⟨c', hc', hsame⟩ := List.mem_map.mp h
    have hnot : ¬q c.aggregation = true := by
      rw [← hsame]
      exact List.find?_eq_none.mp hfront c' hc'
    have hskip : (c :: back).find? (fun c => q c.aggregation) = back.find? fun c => q c.aggregation :=
      List.find?_cons_of_neg hnot
    rw [hskip]

/-- If all choices are of different aggregations, there is nothing behind the first one of an aggregation. -/
theorem filter_eq_toList_find? {choices : List Choice} (h : (choices.map Choice.aggregation).Nodup) (id : String) :
    choices.filter (·.aggregation = id) = (choices.find? (·.aggregation = id)).toList := by
  induction choices with
  | nil => rfl
  | cons c choices ih =>
    obtain ⟨hnew, h⟩ := List.nodup_cons.mp h
    by_cases hid : c.aggregation = id
    · have hnone : choices.filter (·.aggregation = id) = [] := by
        rw [List.filter_eq_nil_iff]
        intro c' hc' hid'
        have hsame : c'.aggregation = c.aggregation := (of_decide_eq_true hid').trans hid.symm
        exact hnew (hsame ▸ List.mem_map_of_mem hc')
      rw [List.filter_cons_of_pos (by simpa using hid), List.find?_cons_of_pos (by simpa using hid), hnone]
      rfl
    · rw [List.filter_cons_of_neg (by simpa using hid), List.find?_cons_of_neg (by simpa using hid), ih h]

theorem find?_eq_some_iff_of_nodup {choices : List Choice} (h : (choices.map Choice.aggregation).Nodup) {id : String}
    {c : Choice} : choices.find? (·.aggregation = id) = some c ↔ c ∈ choices ∧ c.aggregation = id := by
  rw [← Option.mem_toList, ← filter_eq_toList_find? h, List.mem_filter, decide_eq_true_iff]

namespace ExportJob

/-- The order of choices of different aggregations does not matter, if there is a group for each. -/
theorem ofAggregations_of_perm {s : AggregationSelection} {groups : AggregationGroups} {choices : List Choice}
    (hdistinct : (s.choices.map Choice.aggregation).Nodup)
    (hknown : ∀ c ∈ s.choices, ∃ g ∈ groups, g.id = c.aggregation) (hperm : choices.Perm s.choices) :
    ofAggregations { s with choices } groups = ofAggregations s groups := by
  have hdistinct' : (choices.map Choice.aggregation).Nodup := (hperm.map Choice.aggregation).nodup_iff.mpr hdistinct
  apply ofAggregations_congr
  · constructor
    · rintro rfl
      exact hperm.symm.eq_nil
    · intro hempty
      rw [hempty] at hperm
      exact hperm.eq_nil
  · rw [find?_unknown_eq_none_iff.mpr hknown, find?_unknown_eq_none_iff.mpr fun c hc => hknown c (hperm.mem_iff.mp hc)]
  · intro id
    ext c
    rw [find?_eq_some_iff_of_nodup hdistinct', find?_eq_some_iff_of_nodup hdistinct, hperm.mem_iff]

/-- A choice of what is chosen before it does not matter. -/
theorem ofAggregations_of_repeated {s : AggregationSelection} {front back : List Choice} {c : Choice}
    (hchoices : s.choices = front ++ c :: back) (h : c.aggregation ∈ front.map Choice.aggregation)
    (groups : AggregationGroups) :
    ofAggregations { s with choices := front ++ back } groups = ofAggregations s groups := by
  apply ofAggregations_congr
  · have hfront : front ≠ [] := by
      rintro rfl
      cases h
    rw [hchoices]
    simp [hfront]
  · rw [hchoices]
    exact find?_of_repeated h fun id => (groups.get? id).isNone
  · intro id
    rw [hchoices]
    exact find?_of_repeated h (· = id)

/-- **Planning of aggregations.** Let the groups be made of descriptors, and the choices be of different aggregations.
A job is built just if there is a choice, every choice is of a group that accepts its attributes, and the window is a
range. Its tasks are, group by group and source by source, for the columns of the choice of the group. If every choice
is of a group, the choices in another order give the same. -/
theorem ofAggregations_of_distinct {sources : List (String × List Descriptor)} {groups : AggregationGroups}
    (hgroups : AggregationGroups.ofSources sources = .ok groups) {s : AggregationSelection}
    (hdistinct : (s.choices.map Choice.aggregation).Nodup) :
    ((∃ job, ofAggregations s groups = .ok job) ↔ s.choices ≠ [] ∧
      (∀ c ∈ s.choices, ∃ g ∈ groups, g.id = c.aggregation ∧ g.Accepts c.attributes) ∧
      ∃ range, TimeRange.ofTexts? s.start s.stop = .ok range) ∧
    (∀ job, ofAggregations s groups = .ok job → job.tasks = groups.flatMap fun g =>
      (s.choices.filter (·.aggregation = g.id)).flatMap fun c => g.sources.map fun source =>
        ⟨.aggregation g.id source, (attributeNames c.attributes).map Catalog.aggregation.columnOf⟩) ∧
    ((∀ c ∈ s.choices, ∃ g ∈ groups, g.id = c.aggregation) → ∀ choices : List Choice, choices.Perm s.choices →
      ofAggregations { s with choices } groups = ofAggregations s groups) := by
  have hids : (groups.map AggregationGroup.id).Nodup := (AggregationGroups.wellFormed_ofSources hgroups).nodup_ids
  refine ⟨⟨?_, ?_⟩, ?_, ?_⟩
  · rintro ⟨job, hjob⟩
    obtain ⟨hne, hknown, haccepts, range, hrange, -⟩ := ofAggregations_eq_ok_iff.mp hjob
    refine ⟨hne, fun c hc => ?_, range, hrange⟩
    obtain ⟨g, hg, hid⟩ := hknown c hc
    exact ⟨g, hg, hid, haccepts g hg c ((find?_eq_some_iff_of_nodup hdistinct).mpr ⟨hc, hid.symm⟩)⟩
  · rintro ⟨hne, hchoices, range, hrange⟩
    have hknown : ∀ c ∈ s.choices, ∃ g ∈ groups, g.id = c.aggregation := by
      intro c hc
      obtain ⟨g, hg, hid, -⟩ := hchoices c hc
      exact ⟨g, hg, hid⟩
    have haccepts : ∀ g ∈ groups, ∀ c, s.choices.find? (·.aggregation = g.id) = some c → g.Accepts c.attributes := by
      intro g hg c hc
      obtain ⟨hmem, hid⟩ := (find?_eq_some_iff_of_nodup hdistinct).mp hc
      obtain ⟨g', hg', hid', haccepts⟩ := hchoices c hmem
      -- there is one group of the id only
      obtain rfl : g' = g := List.inj_on_of_nodup_map hids hg' hg (hid'.trans hid)
      exact haccepts
    exact ⟨_, ofAggregations_eq_ok_iff.mpr ⟨hne, hknown, haccepts, range, hrange, rfl⟩⟩
  · intro job hjob
    rw [tasks_of_ofAggregations hjob]
    refine List.flatMap_congr fun g _ => ?_
    rw [filter_eq_toList_find? hdistinct]
    rfl
  · intro hknown choices hperm
    exact ofAggregations_of_perm hdistinct hknown hperm

/-! ### Sums chosen before means -/

def means : AggregationGroup := ⟨"m", ["mean"], "1h", .infinite, ["a", "b"]⟩

def sums : AggregationGroup := ⟨"s", ["sum"], "1d", .infinite, ["a"]⟩

/-- Both sources carry the means, the first one carries the sums too. -/
def meansAndSums : List (String × List Descriptor) :=
  [("a", [⟨"m", ["mean"], "1h", ""⟩, ⟨"s", ["sum"], "1d", ""⟩]), ("b", [⟨"m", ["mean"], "1h", ""⟩])]

def sumsBeforeMeans : AggregationSelection where
  choices := [⟨"s", "sum, name"⟩, ⟨"m", "starttime,mean"⟩]

theorem accepts_sums : sums.Accepts "sum, name" where
  first := ⟨"sum", ["name"], by decide +kernel, by decide⟩
  offers := by decide +kernel

theorem accepts_means : means.Accepts "starttime,mean" where
  first := ⟨"starttime", ["mean"], by decide +kernel, by decide⟩
  offers := by decide +kernel

/-- The tasks are in the order of the groups, and the other order of the choices gives the same job. -/
theorem ofAggregations_of_distinct_sumsBeforeMeans : ∃ groups job,
    AggregationGroups.ofSources meansAndSums = .ok groups ∧ ofAggregations sumsBeforeMeans groups = .ok job ∧
    job.tasks = [⟨.aggregation "m" "a", ["ts", "mean"]⟩, ⟨.aggregation "m" "b", ["ts", "mean"]⟩,
      ⟨.aggregation "s" "a", ["sum", "n"]⟩] ∧
    ofAggregations { sumsBeforeMeans with choices := sumsBeforeMeans.choices.reverse } groups = .ok job := by
  have hgroups : AggregationGroups.ofSources meansAndSums = .ok [means, sums] := rfl
  obtain ⟨hok, htasks, hperm⟩ := ofAggregations_of_distinct hgroups (s := sumsBeforeMeans) (by decide)
  have hknown : ∀ c ∈ sumsBeforeMeans.choices, ∃ g ∈ [means, sums], g.id = c.aggregation ∧ g.Accepts c.attributes := by
    intro c hc
    rcases List.mem_cons.mp hc with rfl | hc
    · exact ⟨sums, by decide, rfl, accepts_sums⟩
    · obtain rfl := List.mem_singleton.mp hc
      exact ⟨means, by decide, rfl, accepts_means⟩
  obtain ⟨job, hjob⟩ := hok.mpr ⟨by decide, hknown, {}, by decide +kernel⟩
  refine ⟨_, job, hgroups, hjob, ?_, ?_⟩
  · rw [htasks job hjob]
    decide +kernel
  · rw [hperm (by decide) _ (List.reverse_perm _), hjob]

/-! ### First choices -/

/-- No other choice of the aggregation comes before it. -/
def IsFirst (choices : List Choice) (c : Choice) : Prop := choices.find? (·.aggregation = c.aggregation) = some c

instance (choices : List Choice) : DecidablePred (IsFirst choices) := fun _ => inferInstanceAs (Decidable (_ = _))

theorem isFirst_of_find? {choices : List Choice} {id : String} {c : Choice}
    (h : choices.find? (·.aggregation = id) = some c) : IsFirst choices c ∧ c.aggregation = id := by
  have hid : c.aggregation = id := by simpa using List.find?_some h
  subst hid
  exact ⟨h, rfl⟩

/-- **Only the first choice of an aggregation counts.** A job is built just if there is a choice, every choice is of a
group, every group accepts the first choice of its aggregation, and the window is a range. Then the tasks of the group
for this choice are in the job. A choice of what is chosen before it does not matter, whatever attributes it asks for:
without it the result is the same. -/
theorem ofAggregations_of_firsts (s : AggregationSelection) (groups : AggregationGroups) :
    ((∃ job, ofAggregations s groups = .ok job) ↔ s.choices ≠ [] ∧
      (∀ c ∈ s.choices, ∃ g ∈ groups, g.id = c.aggregation) ∧
      (∀ c, IsFirst s.choices c → ∀ g ∈ groups, g.id = c.aggregation → g.Accepts c.attributes) ∧
      ∃ range, TimeRange.ofTexts? s.start s.stop = .ok range) ∧
    (∀ job, ofAggregations s groups = .ok job → ∀ c, IsFirst s.choices c → ∀ g ∈ groups, g.id = c.aggregation →
      ∀ source ∈ g.sources, ⟨.aggregation g.id source, attributeColumns c.attributes⟩ ∈ job.tasks) ∧
    ∀ front c back, s.choices = front ++ c :: back → c.aggregation ∈ front.map Choice.aggregation →
      ofAggregations { s with choices := front ++ back } groups = ofAggregations s groups := by
  refine ⟨⟨?_, ?_⟩, ?_, ?_⟩
  · rintro ⟨job, hjob⟩
    obtain ⟨hne, hknown, haccepts, range, hrange, -⟩ := ofAggregations_eq_ok_iff.mp hjob
    refine ⟨hne, hknown, fun c hc g hg hid => ?_, range, hrange⟩
    apply haccepts g hg c
    rw [hid]
    exact hc
  · rintro ⟨hne, hknown, hfirsts, range, hrange⟩
    have haccepts : ∀ g ∈ groups, ∀ c, s.choices.find? (·.aggregation = g.id) = some c → g.Accepts c.attributes := by
      intro g hg c hc
      obtain ⟨hfirst, hid⟩ := isFirst_of_find? hc
      exact hfirsts c hfirst g hg hid.symm
    exact ⟨_, ofAggregations_eq_ok_iff.mpr ⟨hne, hknown, haccepts, range, hrange, rfl⟩⟩
  · intro job hjob c hc g hg hid source hsource
    rw [tasks_of_ofAggregations hjob, List.mem_flatMap]
    refine ⟨g, hg, List.mem_flatMap.mpr ⟨c, ?_, List.mem_map_of_mem hsource⟩⟩
    rw [Option.mem_toList, hid]
    exact hc
  · intro front c back hchoices hrepeated
    exact ofAggregations_of_repeated hchoices hrepeated groups

/-- The means are chosen twice, with names and then with an attribute that they do not have. -/
def namesThenBogus : AggregationSelection where
  choices := [⟨"m", "name"⟩, ⟨"m", "bogus"⟩]

/-- The job of the names alone is built. -/
theorem ofAggregations_of_firsts_namesThenBogus : ¬means.Offers "bogus" ∧
    ∃ job, ofAggregations namesThenBogus [means] = .ok job ∧
      ⟨.aggregation "m" "a", ["n"]⟩ ∈ job.tasks ∧
      ofAggregations { namesThenBogus with choices := [⟨"m", "name"⟩] } [means] = .ok job := by
  obtain ⟨hok, htasks, hrepeated⟩ := ofAggregations_of_firsts namesThenBogus [means]
  have hnames : means.Accepts "name" := ⟨⟨"name", [], by decide +kernel, by decide⟩, by decide +kernel⟩
  have hfirsts : ∀ c, IsFirst namesThenBogus.choices c → ∀ g ∈ [means], g.id = c.aggregation →
      g.Accepts c.attributes := by
    intro c hc g hg hid
    obtain rfl := List.mem_singleton.mp hg
    rw [IsFirst, ← hid] at hc
    obtain rfl : (⟨"m", "name"⟩ : Choice) = c := Option.some.inj hc
    exact hnames
  obtain ⟨job, hjob⟩ := hok.mpr ⟨by decide, by decide, hfirsts, {}, by decide +kernel⟩
  refine ⟨by decide, job, hjob, ?_, ?_⟩
  · have hcolumns : attributeColumns "name" = ["n"] := by decide +kernel
    rw [← hcolumns]
    exact htasks job hjob ⟨"m", "name"⟩ (by decide) means (by decide) rfl "a" (by decide)
  · rw [← hjob]
    exact hrepeated [⟨"m", "name"⟩] ⟨"m", "bogus"⟩ [] rfl (by decide)

end ExportJob

end SeriesExport
