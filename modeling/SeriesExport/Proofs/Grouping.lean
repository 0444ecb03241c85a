import Mathlib.Data.List.Nodup
import SeriesExport.Job

/-!
# Jobs follow their groups

A descriptor opens a group or joins the group of its id (`AggregationGroups.insert_cases`). So no two groups have one
id, and none is without a source (`AggregationGroups.wellFormed_ofSources`).

A job for aggregations takes ids and sources from the groups that are chosen, in their order
(`ExportJob.target_of_ofAggregations`), so its aggregations are different. If none of them has a source twice, no two
tasks are for one entity (`ExportJob.nodup_entities_aggregationTasks`).
-/

namespace SeriesExport

/-! ## Descriptors -/

theorem AggregationGroup.join_eq_ok {g joined : AggregationGroup} {source : String} {d : Descriptor}
    (h : g.join source d = .ok joined) : g.conflict? d = none ∧
      joined = { g with sources := g.sources ++ [source], retention := g.retention.meet (.ofText d.retention) } := by
  unfold join at h
  split at h
  · cases h
  · next hconflict => exact ⟨hconflict, (Except.ok.inj h).symm⟩

namespace AggregationGroups

/-- A descriptor of a new id opens a group. Any other joins the first group of its id. -/
theorem insert_cases {source : String} {d : Descriptor} : ∀ {groups inserted : AggregationGroups},
    groups.insert source d = .ok inserted →
      (d.id ∉ groups.map AggregationGroup.id ∧ inserted = groups ++ [.ofDescriptor source d]) ∨
      ∃ front g back joined, groups = front ++ g :: back ∧ g.id = d.id ∧ d.id ∉ front.map AggregationGroup.id ∧
        g.join source d = .ok joined ∧ inserted = front ++ joined :: back
  | [], _, h => .inl ⟨List.not_mem_nil, (Except.ok.inj h).symm⟩
  | g :: groups, inserted, h => by
    unfold insert at h
    split at h
    · next hid =>
      obtain ⟨joined, hjoin, hinserted⟩ := Result.bind_eq_ok.mp h
      exact .inr ⟨[], g, groups, joined, rfl, hid, List.not_mem_nil, hjoin, (Except.ok.inj hinserted).symm⟩
    · next hid =>
      obtain ⟨rest, hrest, hinserted⟩ := Result.bind_eq_ok.mp h
      obtain rfl := Except.ok.inj hinserted
      rcases insert_cases hrest with ⟨hnew, rfl⟩ | ⟨front, g', back, joined, rfl, hid', hnew, hjoin, rfl⟩
      · exact .inl ⟨List.not_mem_cons_of_ne_of_not_mem (Ne.symm hid) hnew, rfl⟩
      · exact .inr ⟨g :: front, g', back, joined, rfl, hid', List.not_mem_cons_of_ne_of_not_mem (Ne.symm hid) hnew,
          hjoin, rfl⟩

/-- Groups as descriptors make them. -/
structure WellFormed (groups : AggregationGroups) : Prop where
  nodup_ids : (groups.map AggregationGroup.id).Nodup
  sources_ne_nil : ∀ g ∈ groups, g.sources ≠ []

theorem wellFormed_nil : WellFormed [] := ⟨List.nodup_nil, fun _ hg => absurd hg List.not_mem_nil⟩

theorem WellFormed.insert {source : String} {d : Descriptor} {groups inserted : AggregationGroups}
    (hgroups : groups.WellFormed) (h : groups.insert source d = .ok inserted) : inserted.WellFormed := by
  rcases insert_cases h with ⟨hnew, rfl⟩ | ⟨front, g, back, joined, rfl, -, -, hjoin, rfl⟩
  · constructor
    · rw [List.map_append]
      exact Catalog.nodup_concat hgroups.nodup_ids hnew
    · intro g hg
      rcases List.mem_append.mp hg with hg | hg
      · exact hgroups.sources_ne_nil g hg
      · obtain rfl := List.mem_singleton.mp hg
        exact List.cons_ne_nil source []
  · obtain ⟨-, rfl⟩ := AggregationGroup.join_eq_ok hjoin
    constructor
    · have hids := hgroups.nodup_ids
      rwa [List.map_append, List.map_cons] at hids ⊢
    · intro g' hg'
      rcases List.mem_append.mp hg' with hg' | hg'
      · exact hgroups.sources_ne_nil g' (List.mem_append_left _ hg')
      rcases List.mem_cons.mp hg' with rfl | hg'
      · exact List.append_ne_nil_of_right_ne_nil g.sources (List.cons_ne_nil source [])
      · exact hgroups.sources_ne_nil g' (List.mem_append_right _ (List.mem_cons_of_mem g hg'))

theorem WellFormed.foldlM : ∀ {visits : List (String × Descriptor)} {groups inserted : AggregationGroups},
    groups.WellFormed → visits.foldlM (fun groups (source, d) => groups.insert source d) groups = .ok inserted →
      inserted.WellFormed
  | [], _, _, hgroups, h => Except.ok.inj h ▸ hgroups
  | _ :: _, _, _, hgroups, h => by
    rw [List.foldlM_cons] at h
    obtain ⟨next, hnext, hrest⟩ := Result.bind_eq_ok.mp h
    exact (hgroups.insert hnext).foldlM hrest

/-- No two groups have one id, and none is without a source. -/
theorem wellFormed_ofSources {sources : List (String × List Descriptor)} {groups : AggregationGroups}
    (h : ofSources sources = .ok groups) : groups.WellFormed :=
  wellFormed_nil.foldlM h

end AggregationGroups

/-! ## Jobs -/

namespace ExportJob

/-- The group's aggregation is chosen. -/
def Chosen (choices : List Choice) (g : AggregationGroup) : Prop := g.id ∈ choices.map Choice.aggregation

instance (choices : List Choice) : DecidablePred (Chosen choices) := fun _ => inferInstanceAs (Decidable (_ ∈ _))

/-- The id and the sources of a group are taken if its aggregation is chosen. Else the group is left out. -/
theorem groupProjection?_cases {choices : List Choice} {g : AggregationGroup} {p? : Option AggregationProjection}
    (h : groupProjection? choices g = .ok p?) :
    (¬Chosen choices g ∧ p? = none) ∨ (Chosen choices g ∧ ∃ attributes, p? = some ⟨g.id, g.sources, attributes⟩) := by
  unfold groupProjection? at h
  split at h
  · next hfind =>
    refine .inl ⟨fun hchosen => ?_, (Except.ok.inj h).symm⟩
    obtain ⟨choice, hchoice, hid⟩ := List.mem_map.mp hchosen
    exact List.find?_eq_none.mp hfind choice hchoice (decide_eq_true hid)
  · next choice hfind =>
    obtain ⟨attributes, -, hp⟩ := Result.bind_eq_ok.mp h
    have hid : choice.aggregation = g.id := by simpa using List.find?_some hfind
    exact .inr ⟨List.mem_map.mpr ⟨choice, List.mem_of_find?_eq_some hfind, hid⟩, attributes, (Except.ok.inj hp).symm⟩

theorem map_of_mapM_groupProjection? {choices : List Choice} :
    ∀ {groups : AggregationGroups} {projections : List (Option AggregationProjection)},
    groups.mapM (groupProjection? choices) = .ok projections →
      (projections.filterMap id).map (fun p => (p.aggregation, p.sources)) =
        (groups.filter (Chosen choices ·)).map fun g => (g.id, g.sources)
  | [], projections, h => by
    obtain rfl : [] = projections := Except.ok.inj h
    rfl
  | g :: groups, projections, h => by
    rw [List.mapM_cons] at h
    obtain ⟨p?, hp, h⟩ := Result.bind_eq_ok.mp h
    obtain ⟨rest, hrest, h⟩ := Result.bind_eq_ok.mp h
    obtain rfl := Except.ok.inj h
    have ih := map_of_mapM_groupProjection? hrest
    rcases groupProjection?_cases hp with ⟨hchosen, rfl⟩ | ⟨hchosen, attributes, rfl⟩
    · rw [List.filter_cons_of_neg (by simpa using hchosen)]
      exact ih
    · rw [List.filter_cons_of_pos (by simpa using hchosen), List.map_cons, ← ih]
      rfl

/-- A job takes ids and sources from the groups that are chosen, in their order. -/
theorem target_of_ofAggregations {s : AggregationSelection} {groups : AggregationGroups} {job : ExportJob}
    (h : ofAggregations s groups = .ok job) : ∃ ps, job.target = .aggregations ps ∧
      ps.map (fun p => (p.aggregation, p.sources)) =
        (groups.filter (Chosen s.choices ·)).map fun g => (g.id, g.sources) := by
  unfold ofAggregations at h
  split at h
  · cases h
  split at h
  · cases h
  · obtain ⟨projections, hprojections, h⟩ := Result.bind_eq_ok.mp h
    obtain ⟨range, -, h⟩ := Result.bind_eq_ok.mp h
    obtain rfl := Except.ok.inj h
    exact ⟨projections.filterMap id, rfl, map_of_mapM_groupProjection? hprojections⟩

theorem projections_of_ofAggregations {s : AggregationSelection} {groups : AggregationGroups} {job : ExportJob}
    (hgroups : groups.WellFormed) (h : ofAggregations s groups = .ok job) : ∃ ps, job.target = .aggregations ps ∧
      (ps.map AggregationProjection.aggregation).Nodup ∧
      ∀ p ∈ ps, ∃ g ∈ groups, p.aggregation = g.id ∧ p.sources = g.sources := by
  obtain ⟨ps, htarget, hmap⟩ := target_of_ofAggregations h
  have hsublist : (ps.map fun p => (p.aggregation, p.sources)).Sublist (groups.map fun g => (g.id, g.sources)) := by
    rw [hmap]
    exact List.filter_sublist.map _
  refine ⟨ps, htarget, ?_, fun p hp => ?_⟩
  · have hids := hsublist.map Prod.fst
    rw [List.map_map, List.map_map] at hids
    exact hids.nodup hgroups.nodup_ids
  · obtain ⟨g, hg, hsame⟩ := List.mem_map.mp (hsublist.mem (List.mem_map_of_mem hp))
    obtain ⟨hid, hsources⟩ := Prod.mk.inj hsame
    exact ⟨g, hg, hid.symm, hsources.symm⟩

theorem map_entity_aggregationTasks (p : AggregationProjection) :
    (aggregationTasks p).map FetchTask.entity = p.sources.map (.aggregation p.aggregation) := by
  rw [aggregationTasks, List.map_map]
  rfl

theorem nodup_entities_aggregationTasks : ∀ {ps : List AggregationProjection},
    (ps.map AggregationProjection.aggregation).Nodup → (∀ p ∈ ps, p.sources.Nodup) →
      ((ps.flatMap aggregationTasks).map FetchTask.entity).Nodup
  | [], _, _ => List.nodup_nil
  | p :: ps, hids, hsources => by
    obtain ⟨hnew, hids⟩ := List.nodup_cons.mp hids
    rw [List.flatMap_cons, List.map_append, List.nodup_append, map_entity_aggregationTasks]
    refine ⟨?_, ?_, ?_⟩
    · exact (hsources p List.mem_cons_self).map fun _ _ h => (Entity.aggregation.inj h).2
    · exact nodup_entities_aggregationTasks hids fun q hq => hsources q (List.mem_cons_of_mem p hq)
    · -- entities of different aggregations
      intro e he e' he' heq
      obtain ⟨source, -, rfl⟩ := List.mem_map.mp he
      obtain ⟨task, htask, rfl⟩ := List.mem_map.mp he'
      obtain ⟨q, hq, htask⟩ := List.mem_flatMap.mp htask
      obtain ⟨source', -, rfl⟩ := List.mem_map.mp htask
      exact hnew ((Entity.aggregation.inj heq).1 ▸ List.mem_map_of_mem hq)

end ExportJob

end SeriesExport
