import Mathlib.Data.List.Count
import SeriesExport.Proofs.Grouping

/-!
# How often a group has a source

A descriptor leaves its source in the group of its id (`AggregationGroups.sourcesOf_insert`), also if the source is
there already. So a group has each source as often as the source describes the aggregation
(`AggregationGroups.sourcesOf_groupAggregations`), and a job that chooses the aggregation has as many tasks for the
two (`ExportJob.count_entities`).
-/

namespace SeriesExport

/-! ## Counting -/

/-- What can only be in the list of one key is there as often as in all lists. -/
theorem count_flatMap_of_nodup {α β κ : Type} [BEq β] [LawfulBEq β] {key : α → κ} {f : α → List β} {b : β} {x : α} :
    ∀ {l : List α}, (l.map key).Nodup → x ∈ l → (∀ y ∈ l, b ∈ f y → key y = key x) →
      (l.flatMap f).count b = (f x).count b
  | y :: l, hnodup, hx, hkey => by
    obtain ⟨hnew, hnodup⟩ := List.nodup_cons.mp hnodup
    rw [List.flatMap_cons, List.count_append]
    rcases List.mem_cons.mp hx with rfl | hx
    · have hrest : (l.flatMap f).count b = 0 := List.count_eq_zero.mpr fun hb => by
        obtain ⟨z, hz, hbz⟩ := List.mem_flatMap.mp hb
        exact hnew (hkey z (List.mem_cons_of_mem x hz) hbz ▸ List.mem_map_of_mem hz)
      rw [hrest, Nat.add_zero]
    · have hhead : (f y).count b = 0 := List.count_eq_zero.mpr fun hb =>
        hnew (hkey y List.mem_cons_self hb ▸ List.mem_map_of_mem hx)
      rw [hhead, Nat.zero_add]
      exact count_flatMap_of_nodup hnodup hx fun z hz => hkey z (List.mem_cons_of_mem y hz)

namespace DataSource

/-- How often the source describes an aggregation. -/
def descriptions (s : DataSource) (id : String) : ℕ := s.aggregation.countP (·.id = id)

/-- Whether the source describes an aggregation at all. -/
def carries (s : DataSource) (id : String) : Bool := s.aggregation.any (·.id = id)

theorem carries_iff {s : DataSource} {id : String} : s.carries id ↔ 0 < s.descriptions id := by
  rw [descriptions, List.countP_pos_iff, carries, List.any_eq_true]

end DataSource

/-- The sources that describe an aggregation, each as often as it does. -/
def describers (sources : List DataSource) (id : String) : List String :=
  sources.flatMap fun s => List.replicate (s.descriptions id) s.id

theorem count_describers {sources : List DataSource} (hdistinct : (sources.map DataSource.id).Nodup) {s : DataSource}
    (hs : s ∈ sources) (id : String) : (describers sources id).count s.id = s.descriptions id := by
  rw [describers, count_flatMap_of_nodup hdistinct hs fun y _ hy => (List.eq_of_mem_replicate hy).symm,
    List.count_replicate_self]

theorem nodup_describers_iff {sources : List DataSource} (hdistinct : (sources.map DataSource.id).Nodup)
    (id : String) : (describers sources id).Nodup ↔ ∀ s ∈ sources, s.descriptions id ≤ 1 := by
  rw [List.nodup_iff_count_le_one]
  constructor
  · intro h s hs
    rw [← count_describers hdistinct hs]
    exact h s.id
  · intro h source
    by_cases hmem : source ∈ describers sources id
    · obtain ⟨s, hs, hsource⟩ := List.mem_flatMap.mp hmem
      obtain rfl := List.eq_of_mem_replicate hsource
      rw [count_describers hdistinct hs]
      exact h s hs
    · rw [List.count_eq_zero.mpr hmem]
      exact Nat.zero_le 1

/-- Every source that carries the aggregation is among them, and there are no more just if each is there once. -/
theorem length_describers (id : String) : ∀ sources : List DataSource,
    sources.countP (·.carries id) ≤ (describers sources id).length ∧
      ((describers sources id).length = sources.countP (·.carries id) ↔ ∀ s ∈ sources, s.descriptions id ≤ 1)
  | [] => ⟨Nat.le_refl 0, fun _ => nofun, fun _ => rfl⟩
  | s :: sources => by
    obtain ⟨hle, hiff⟩ := length_describers id sources
    have hlength : (describers (s :: sources) id).length = s.descriptions id + (describers sources id).length := by
      rw [describers, List.flatMap_cons, List.length_append, List.length_replicate]
      rfl
    have hcarries : (if s.carries id then 1 else 0) = min 1 (s.descriptions id) := by
      by_cases h : s.carries id
      · have hpos : 0 < s.descriptions id := DataSource.carries_iff.mp h
        rw [if_pos h]
        omega
      · have hzero : ¬0 < s.descriptions id := fun hpos => h (DataSource.carries_iff.mpr hpos)
        rw [if_neg h]
        omega
    rw [hlength, List.countP_cons, hcarries, List.forall_mem_cons, ← hiff]
    omega

/-! ## Groups -/

namespace AggregationGroups

/-- The sources of the group of an id; none if there is no such group. -/
def sourcesOf (groups : AggregationGroups) (id : String) : List String :=
  ((groups.get? id).map AggregationGroup.sources).getD []

theorem sourcesOf_cons (g : AggregationGroup) (groups : AggregationGroups) (id : String) :
    sourcesOf (g :: groups) id = if g.id = id then g.sources else sourcesOf groups id := by
  by_cases h : g.id = id <;> simp [sourcesOf, get?, h]

theorem sourcesOf_of_mem {g : AggregationGroup} : ∀ {groups : AggregationGroups},
    (groups.map AggregationGroup.id).Nodup → g ∈ groups → sourcesOf groups g.id = g.sources
  | g' :: groups, hids, hg => by
    obtain ⟨hnew, hids⟩ := List.nodup_cons.mp hids
    rw [sourcesOf_cons]
    rcases List.mem_cons.mp hg with rfl | hg
    · rw [if_pos rfl]
    · have hid : g'.id ≠ g.id := fun hid => hnew (hid ▸ List.mem_map_of_mem hg)
      rw [if_neg hid, sourcesOf_of_mem hids hg]

theorem sourcesOf_of_not_mem {groups : AggregationGroups} {id : String}
    (h : id ∉ groups.map AggregationGroup.id) : sourcesOf groups id = [] := by
  have hnone : groups.get? id = none := List.find?_eq_none.mpr fun g hg hid =>
    h (List.mem_map.mpr ⟨g, hg, of_decide_eq_true hid⟩)
  rw [sourcesOf, hnone]
  rfl

/-- A descriptor leaves its source in the group of its id, and all other groups are as they were. -/
theorem sourcesOf_insert {source : String} {d : Descriptor} (id : String) : ∀ {groups inserted : AggregationGroups},
    groups.insert source d = .ok inserted →
      sourcesOf inserted id = sourcesOf groups id ++ if d.id = id then [source] else []
  | [], _, h => by
    obtain rfl := Except.ok.inj h
    exact sourcesOf_cons _ _ _
  | g :: groups, _, h => by
    unfold AggregationGroups.insert at h
    split at h
    · next hid =>
      obtain ⟨joined, hjoin, hinserted⟩ := Result.bind_eq_ok.mp h
      obtain rfl := Except.ok.inj hinserted
      obtain ⟨-, rfl⟩ := AggregationGroup.join_eq_ok hjoin
      rw [sourcesOf_cons, sourcesOf_cons, ← hid]
      dsimp only
      split
      · rfl
      · rw [List.append_nil]
    · next hid =>
      obtain ⟨rest, hrest, hinserted⟩ := Result.bind_eq_ok.mp h
      obtain rfl := Except.ok.inj hinserted
      rw [sourcesOf_cons, sourcesOf_cons, sourcesOf_insert id hrest]
      split
      · next hg => rw [if_neg fun hd => hid (hg.trans hd.symm), List.append_nil]
      · rfl

theorem sourcesOf_foldlM (id : String) : ∀ {visits : List (String × Descriptor)} {groups inserted : AggregationGroups},
    visits.foldlM (fun groups (source, d) => groups.insert source d) groups = .ok inserted →
      sourcesOf inserted id = sourcesOf groups id ++ (visits.filter (·.2.id = id)).map Prod.fst
  | [], groups, _, h => by
    obtain rfl := Except.ok.inj h
    rw [List.filter_nil, List.map_nil, List.append_nil]
  | visit :: visits, groups, _, h => by
    rw [List.foldlM_cons] at h
    obtain ⟨next, hnext, hrest⟩ := Result.bind_eq_ok.mp h
    rw [sourcesOf_foldlM id hrest, sourcesOf_insert id hnext, List.append_assoc, List.filter_cons]
    by_cases hid : visit.2.id = id <;> simp [hid]

theorem map_fst_filter_visits (id : String) : ∀ sources : List DataSource,
    ((visits (sources.map fun s => (s.id, s.aggregation))).filter (·.2.id = id)).map Prod.fst = describers sources id
  | [] => rfl
  | s :: sources => by
    have ih := map_fst_filter_visits id sources
    show (((s.aggregation.map fun d => (s.id, d)) ++ visits _).filter _).map Prod.fst =
      List.replicate (s.descriptions id) s.id ++ describers sources id
    rw [List.filter_append, List.map_append, ih, List.filter_map, List.map_map, DataSource.descriptions,
      List.countP_eq_length_filter]
    exact congrArg (· ++ _) List.map_const'

/-- The group of an id has the sources that describe it, each as often as it does. -/
theorem sourcesOf_groupAggregations {sources : List DataSource} {groups : AggregationGroups}
    (h : groupAggregations sources = .ok groups) (id : String) : sourcesOf groups id = describers sources id := by
  rw [sourcesOf_foldlM id h, map_fst_filter_visits]
  rfl

end AggregationGroups

/-! ## Tasks -/

namespace ExportJob

/-- The tasks of a job are for the groups that are chosen, with each source of a group. -/
theorem entities_of_ofAggregations {s : AggregationSelection} {groups : AggregationGroups} {job : ExportJob}
    (h : ofAggregations s groups = .ok job) : job.tasks.map FetchTask.entity =
      (groups.filter (Chosen s.choices ·)).flatMap fun g => g.sources.map (.aggregation g.id) := by
  obtain ⟨ps, htarget, hmap⟩ := target_of_ofAggregations h
  have hentities : ∀ ps : List AggregationProjection, (ps.flatMap aggregationTasks).map FetchTask.entity =
      (ps.map fun p => (p.aggregation, p.sources)).flatMap fun pair => pair.2.map (.aggregation pair.1) := by
    intro ps
    rw [List.map_flatMap, List.flatMap_map]
    exact List.flatMap_congr fun p _ => map_entity_aggregationTasks p
  rw [tasks, htarget]
  show (ps.flatMap aggregationTasks).map FetchTask.entity = _
  rw [hentities, hmap, List.flatMap_map]

section

variable {s : AggregationSelection} {groups : AggregationGroups} {job : ExportJob}

theorem exists_group_of_mem_entities (h : ofAggregations s groups = .ok job) {entity : Entity}
    (hentity : entity ∈ job.tasks.map FetchTask.entity) :
    ∃ g ∈ groups, Chosen s.choices g ∧ ∃ source, entity = .aggregation g.id source := by
  rw [entities_of_ofAggregations h] at hentity
  obtain ⟨g, hg, hentity⟩ := List.mem_flatMap.mp hentity
  obtain ⟨source, -, rfl⟩ := List.mem_map.mp hentity
  obtain ⟨hg, hchosen⟩ := List.mem_filter.mp hg
  exact ⟨g, hg, of_decide_eq_true hchosen, source, rfl⟩

/-- There are as many tasks for an aggregation of a source as there are places of the source in the group. -/
theorem count_entities (hids : (groups.map AggregationGroup.id).Nodup) (h : ofAggregations s groups = .ok job)
    (a source : String) : (job.tasks.map FetchTask.entity).count (.aggregation a source) =
      if a ∈ s.choices.map Choice.aggregation then (AggregationGroups.sourcesOf groups a).count source else 0 := by
  by_cases hgroup : ∃ g ∈ groups, Chosen s.choices g ∧ g.id = a
  · obtain ⟨g, hg, hchosen, rfl⟩ := hgroup
    have hmem : g ∈ groups.filter (Chosen s.choices ·) := List.mem_filter.mpr ⟨hg, decide_eq_true hchosen⟩
    have hnodup : ((groups.filter (Chosen s.choices ·)).map AggregationGroup.id).Nodup :=
      (List.filter_sublist.map _).nodup hids
    have hkey : ∀ g' ∈ groups.filter (Chosen s.choices ·),
        Entity.aggregation g.id source ∈ g'.sources.map (.aggregation g'.id) → g'.id = g.id := by
      intro g' _ hentity
      obtain ⟨_, -, heq⟩ := List.mem_map.mp hentity
      exact (Entity.aggregation.inj heq).1
    rw [entities_of_ofAggregations h, if_pos (show g.id ∈ s.choices.map Choice.aggregation from hchosen),
      count_flatMap_of_nodup hnodup hmem hkey, AggregationGroups.sourcesOf_of_mem hids hg]
    exact List.count_map_of_injective _ _ (fun _ _ heq => (Entity.aggregation.inj heq).2) source
  · have hzero : (job.tasks.map FetchTask.entity).count (.aggregation a source) = 0 :=
      List.count_eq_zero.mpr fun hentity => by
        obtain ⟨g, hg, hchosen, _, heq⟩ := exists_group_of_mem_entities h hentity
        exact hgroup ⟨g, hg, hchosen, (Entity.aggregation.inj heq).1.symm⟩
    rw [hzero]
    split
    · next hchosen =>
      have hnew : a ∉ groups.map AggregationGroup.id := by
        intro hid
        obtain ⟨g, hg, rfl⟩ := List.mem_map.mp hid
        exact hgroup ⟨g, hg, hchosen, rfl⟩
      rw [AggregationGroups.sourcesOf_of_not_mem hnew, List.count_nil]
    · rfl

end

end ExportJob

/-- **One task for each descriptor.** Let the ids of sources be different. A group has a source as often as the source
describes the aggregation. So no source is in a group twice, and the group counts the sources that carry it, just if no
source describes it twice. A job has as many tasks for a source and an aggregation that is chosen, and no two of its
tasks are for one entity just if no source describes twice what is chosen. -/
theorem tasks_of_descriptions {sources : List DataSource} (hdistinct : (sources.map DataSource.id).Nodup)
    {groups : AggregationGroups} (hgroups : groupAggregations sources = .ok groups) :
    (∀ g ∈ groups, (∀ s ∈ sources, g.sources.count s.id = s.descriptions g.id) ∧
      (g.sources.Nodup ↔ ∀ s ∈ sources, s.descriptions g.id ≤ 1) ∧
      sources.countP (·.carries g.id) ≤ g.sources.length ∧
      (g.sources.length = sources.countP (·.carries g.id) ↔ g.sources.Nodup)) ∧
    ∀ (selection : AggregationSelection) (job : ExportJob), ExportJob.ofAggregations selection groups = .ok job →
      (∀ a, ∀ s ∈ sources, (job.tasks.map FetchTask.entity).count (.aggregation a s.id) =
        if a ∈ selection.choices.map Choice.aggregation then s.descriptions a else 0) ∧
      ((job.tasks.map FetchTask.entity).Nodup ↔
        ∀ a ∈ selection.choices.map Choice.aggregation, ∀ s ∈ sources, s.descriptions a ≤ 1) := by
  have hids : (groups.map AggregationGroup.id).Nodup := (AggregationGroups.wellFormed_ofSources hgroups).nodup_ids
  have hsources := AggregationGroups.sourcesOf_groupAggregations hgroups
  constructor
  · intro g hg
    have hdescribers : g.sources = describers sources g.id := by
      rw [← AggregationGroups.sourcesOf_of_mem hids hg, hsources]
    have hnodup := nodup_describers_iff hdistinct g.id
    obtain ⟨hle, hlength⟩ := length_describers g.id sources
    rw [hdescribers]
    exact ⟨fun s hs => count_describers hdistinct hs g.id, hnodup, hle, hlength.trans hnodup.symm⟩
  · intro selection job hjob
    have hcount : ∀ a source, (job.tasks.map FetchTask.entity).count (.aggregation a source) =
        if a ∈ selection.choices.map Choice.aggregation then (describers sources a).count source else 0 :=
      fun a source => hsources a ▸ ExportJob.count_entities hids hjob a source
    have htasks : ∀ a, ∀ s ∈ sources, (job.tasks.map FetchTask.entity).count (.aggregation a s.id) =
        if a ∈ selection.choices.map Choice.aggregation then s.descriptions a else 0 := by
      intro a s hs
      rw [hcount, count_describers hdistinct hs]
    refine ⟨htasks, List.nodup_iff_count_le_one.trans ⟨fun h a ha s hs => ?_, fun h entity => ?_⟩⟩
    · have hle := h (.aggregation a s.id)
      rwa [htasks a s hs, if_pos ha] at hle
    · cases entity with
      | source id =>
        have hmem : Entity.source id ∉ job.tasks.map FetchTask.entity := by
          intro hentity
          obtain ⟨_, _, _, _, heq⟩ := ExportJob.exists_group_of_mem_entities hjob hentity
          cases heq
        rw [List.count_eq_zero.mpr hmem]
        exact Nat.zero_le 1
      | aggregation a source =>
        rw [hcount]
        split
        · next ha =>
          exact List.nodup_iff_count_le_one.mp ((nodup_describers_iff hdistinct a).mpr (h a ha)) source
        · exact Nat.zero_le 1

/-! ### A descriptor that is there twice -/

def hourlyMean : Descriptor := { id := "m", operators := ["mean"], interval := "1h" }

/-- The first of the sources describes its mean twice. -/
def meansOfBoth : List DataSource := [⟨"a", [hourlyMean, hourlyMean], []⟩, ⟨"b", [hourlyMean], []⟩]

def meanNames : AggregationSelection := { choices := [⟨"m", "name"⟩] }

/-- The group counts three sources, though only two of them carry it, and one entity is fetched twice. -/
theorem tasks_of_descriptions_meansOfBoth : ∃ g job, groupAggregations meansOfBoth = .ok [g] ∧
    ExportJob.ofAggregations meanNames [g] = .ok job ∧ g.sources.count "a" = 2 ∧ ¬g.sources.Nodup ∧
    g.sources.length ≠ meansOfBoth.countP (·.carries "m") ∧
    (job.tasks.map FetchTask.entity).count (.aggregation "m" "a") = 2 ∧ ¬(job.tasks.map FetchTask.entity).Nodup := by
  have hgroups : groupAggregations meansOfBoth =
      .ok [⟨"m", ["mean"], "1h", .infinite, ["a", "a", "b"]⟩] := rfl
  obtain ⟨hgroup, hjobs⟩ := tasks_of_descriptions (by decide) hgroups
  obtain ⟨hcount, hnodup, -, hlength⟩ := hgroup _ List.mem_cons_self
  obtain ⟨htasks, hentities⟩ := hjobs meanNames _ rfl
  have htwice : ¬∀ s ∈ meansOfBoth, s.descriptions "m" ≤ 1 := by decide
  exact ⟨_, _, hgroups, rfl, hcount _ List.mem_cons_self, fun h => htwice (hnodup.mp h),
    fun h => htwice (hnodup.mp (hlength.mp h)), htasks "m" _ List.mem_cons_self,
    fun h => htwice (hentities.mp h "m" (by decide))⟩

end SeriesExport
