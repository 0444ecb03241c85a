import SeriesExport.Proofs.Commits
import SeriesExport.Proofs.Grouping

/-!
# Groups and the descriptors they are made of

A visit is a descriptor with the source that has it. A group sums up the visits of its id (`AggregationGroup.Sums`):
opening and joining a group keep this (`AggregationGroup.sums_ofDescriptor`, `AggregationGroup.Sums.join`). So after
any visits there is one group for each id, in the order of the first visits, and it sums up all visits of the id
(`Collects`, kept by `Collects.insert`).

Grouping is refused at the first visit that disagrees with the first one of its id (`collect_eq_error_iff`), so it
succeeds just if all visits of one id agree (`exists_collect_eq_ok_iff`).
-/

namespace SeriesExport

open AggregationGroups (visits)

/-- A descriptor, and the source that has it. -/
abbrev Visit := String × Descriptor

/-- The visits of an id. -/
def visitsOf (vs : List Visit) (id : String) : List Visit := vs.filter (·.2.id = id)

theorem visitsOf_concat (vs : List Visit) (v : Visit) (id : String) :
    visitsOf (vs ++ [v]) id = visitsOf vs id ++ if v.2.id = id then [v] else [] := by
  unfold visitsOf
  rw [List.filter_append]
  by_cases hid : v.2.id = id <;> simp [hid]

/-- The ids in the order of their first visits. -/
def visitedIds (vs : List Visit) : List String := (vs.map (·.2.id)).eraseDups

theorem mem_visitedIds {vs : List Visit} {id : String} : id ∈ visitedIds vs ↔ ∃ v ∈ vs, v.2.id = id := by
  rw [visitedIds, List.mem_eraseDups, List.mem_map]

theorem visitedIds_concat (vs : List Visit) (v : Visit) :
    visitedIds (vs ++ [v]) = if v.2.id ∈ visitedIds vs then visitedIds vs else visitedIds vs ++ [v.2.id] := by
  unfold visitedIds
  rw [List.map_append, List.map_singleton, eraseDups_concat]
  simp only [List.mem_eraseDups]

theorem visitsOf_of_not_mem {vs : List Visit} {id : String} (h : id ∉ visitedIds vs) : visitsOf vs id = [] := by
  unfold visitsOf
  rw [List.filter_eq_nil_iff]
  intro v hv hid
  exact h (mem_visitedIds.mpr ⟨v, hv, of_decide_eq_true hid⟩)

/-- The first visit of an id is a visit of the id. -/
theorem mem_of_find?_visit {vs : List Visit} {id : String} {first : Visit} (h : vs.find? (·.2.id = id) = some first) :
    first ∈ vs ∧ first.2.id = id := by
  constructor
  · exact List.mem_of_find?_eq_some h
  · simpa using List.find?_some h

/-! ## Disagreement -/

/-- All descriptors of one id have the same operators and the same interval. -/
def Consistent (vs : List Visit) : Prop :=
  ∀ v ∈ vs, ∀ w ∈ vs, v.2.id = w.2.id → v.2.operators = w.2.operators ∧ v.2.interval = w.2.interval

instance (vs : List Visit) : Decidable (Consistent vs) :=
  inferInstanceAs (Decidable (∀ v ∈ vs, ∀ w ∈ vs, _ → _))

/-- What a descriptor disagrees on with the first one of its id; operators are looked at before the interval. -/
inductive Descriptor.Disagrees (first d : Descriptor) : DescriptorField → Prop
  | operators : d.operators ≠ first.operators → Disagrees first d .operators
  | interval : d.operators = first.operators → d.interval ≠ first.interval → Disagrees first d .interval

theorem Descriptor.Disagrees.not_agree {first d : Descriptor} {field : DescriptorField} (h : first.Disagrees d field) :
    ¬(d.operators = first.operators ∧ d.interval = first.interval) := by
  rintro ⟨hoperators, hinterval⟩
  cases h with
  | operators hne => exact hne hoperators
  | interval _ hne => exact hne hinterval

theorem Retention.ofText_injective : Function.Injective Retention.ofText := by
  intro text text' h
  unfold Retention.ofText at h
  split at h <;> split at h <;> simp_all

/-- Once descriptors disagree on the retention, they keep doing so. -/
theorem Retention.multiple_meet (r : Retention) : Retention.meet .multiple r = .multiple := by
  unfold Retention.meet
  rw [ite_self]

namespace AggregationGroup

/-- The group has what the visits of its id have in common, and all their sources. -/
structure Sums (g : AggregationGroup) (vs : List Visit) : Prop where
  operators : ∀ v ∈ vs, v.2.operators = g.operators
  interval : ∀ v ∈ vs, v.2.interval = g.interval
  sources : g.sources = vs.map Prod.fst
  /-- if none has a retention, there is no end -/
  infinite : (∀ v ∈ vs, v.2.retention = "") → g.retention = .infinite
  /-- a retention that all have is the group's -/
  duration : ∀ text, text ≠ "" → (∀ v ∈ vs, v.2.retention = text) → g.retention = .duration text
  /-- if they have different ones, or only some have one, the group has none -/
  mixed : (∀ text, ∃ v ∈ vs, v.2.retention ≠ text) → g.retention = .multiple

theorem Sums.common {g : AggregationGroup} {vs : List Visit} (h : g.Sums vs) {text : String}
    (hcommon : ∀ v ∈ vs, v.2.retention = text) : g.retention = .ofText text := by
  unfold Retention.ofText
  split
  · next htext => exact h.infinite (htext ▸ hcommon)
  · next hne => exact h.duration text hne hcommon

theorem sums_ofDescriptor (source : String) (d : Descriptor) : (ofDescriptor source d).Sums [(source, d)] := by
  have hretention {text : String} (hcommon : ∀ v ∈ [(source, d)], v.2.retention = text) :
      (ofDescriptor source d).retention = .ofText text := by
    rw [← hcommon _ List.mem_cons_self]
    rfl
  constructor
  · intro v hv
    obtain rfl := List.mem_singleton.mp hv
    rfl
  · intro v hv
    obtain rfl := List.mem_singleton.mp hv
    rfl
  · rfl
  · exact fun hnone => (hretention hnone).trans (if_pos rfl)
  · exact fun text hne hcommon => (hretention hcommon).trans (if_neg hne)
  · intro hmixed
    obtain ⟨v, hv, hne⟩ := hmixed d.retention
    obtain rfl := List.mem_singleton.mp hv
    exact absurd rfl hne

theorem conflict?_eq_none_iff {g : AggregationGroup} {d : Descriptor} :
    g.conflict? d = none ↔ d.operators = g.operators ∧ d.interval = g.interval := by
  unfold conflict?
  by_cases hoperators : d.operators = g.operators <;> by_cases hinterval : d.interval = g.interval <;>
    simp [hoperators, hinterval]

/-- A descriptor that joins a group is summed up with the others. -/
theorem Sums.join {g joined : AggregationGroup} {vs : List Visit} {source : String} {d : Descriptor} (h : g.Sums vs)
    (hjoin : g.join source d = .ok joined) : joined.Sums (vs ++ [(source, d)]) := by
  obtain ⟨hconflict, rfl⟩ := join_eq_ok hjoin
  obtain ⟨hoperators, hinterval⟩ := conflict?_eq_none_iff.mp hconflict
  have hretention {text : String} (hcommon : ∀ v ∈ vs ++ [(source, d)], v.2.retention = text) :
      g.retention.meet (.ofText d.retention) = .ofText text := by
    rw [h.common fun v hv => hcommon v (List.mem_append_left _ hv),
      hcommon (source, d) (List.mem_append_right _ List.mem_cons_self)]
    exact if_pos rfl
  constructor
  · intro v hv
    rcases List.mem_append.mp hv with hv | hv
    · exact h.operators v hv
    · obtain rfl := List.mem_singleton.mp hv
      exact hoperators
  · intro v hv
    rcases List.mem_append.mp hv with hv | hv
    · exact h.interval v hv
    · obtain rfl := List.mem_singleton.mp hv
      exact hinterval
  · rw [List.map_append, ← h.sources]
    rfl
  · exact fun hnone => (hretention hnone).trans (if_pos rfl)
  · exact fun text hne hcommon => (hretention hcommon).trans (if_neg hne)
  · intro hmixed
    show g.retention.meet (.ofText d.retention) = .multiple
    by_cases hcommon : ∃ text, ∀ v ∈ vs, v.2.retention = text
    · obtain ⟨text, hcommon⟩ := hcommon
      have hne : d.retention ≠ text := by
        intro hsame
        obtain ⟨v, hv, hne⟩ := hmixed text
        rcases List.mem_append.mp hv with hv | hv
        · exact hne (hcommon v hv)
        · obtain rfl := List.mem_singleton.mp hv
          exact hne hsame
      rw [h.common hcommon]
      exact if_neg fun hsame => hne (Retention.ofText_injective hsame).symm
    · push Not at hcommon
      rw [h.mixed hcommon]
      exact Retention.multiple_meet _

/-- A visit of another id does not matter. -/
theorem Sums.concat_of_ne {g : AggregationGroup} {vs : List Visit} {v : Visit} (h : g.Sums (visitsOf vs g.id))
    (hne : g.id ≠ v.2.id) : g.Sums (visitsOf (vs ++ [v]) g.id) := by
  rw [visitsOf_concat, if_neg hne.symm, List.append_nil]
  exact h

end AggregationGroup

/-! ## Groups of visits -/

/-- There is one group for each id that is visited, in the order of the first visits, and it sums up all of them. -/
structure Collects (vs : List Visit) (groups : AggregationGroups) : Prop where
  ids : groups.map AggregationGroup.id = visitedIds vs
  sums : ∀ g ∈ groups, g.Sums (visitsOf vs g.id)

namespace Collects

variable {vs : List Visit} {groups : AggregationGroups}

theorem nil : Collects [] [] := ⟨rfl, nofun⟩

/-- A visit of a new id opens a group. -/
theorem concat {source : String} {d : Descriptor} (h : Collects vs groups)
    (hnew : d.id ∉ groups.map AggregationGroup.id) :
    Collects (vs ++ [(source, d)]) (groups ++ [.ofDescriptor source d]) := by
  have hnone : d.id ∉ visitedIds vs := h.ids ▸ hnew
  constructor
  · rw [visitedIds_concat, if_neg hnone, List.map_append, h.ids]
    rfl
  · intro g hg
    rcases List.mem_append.mp hg with hg | hg
    · have hne : g.id ≠ d.id := fun hid => hnew (hid ▸ List.mem_map_of_mem hg)
      exact (h.sums g hg).concat_of_ne hne
    · obtain rfl := List.mem_singleton.mp hg
      show (AggregationGroup.ofDescriptor source d).Sums (visitsOf (vs ++ [(source, d)]) d.id)
      rw [visitsOf_concat, if_pos rfl, visitsOf_of_not_mem hnone, List.nil_append]
      exact AggregationGroup.sums_ofDescriptor source d

/-- A visit of another id joins its group, and no other group has the id. -/
theorem join {front back : AggregationGroups} {g joined : AggregationGroup} {source : String} {d : Descriptor}
    (h : Collects vs (front ++ g :: back)) (hid : g.id = d.id) (hjoin : g.join source d = .ok joined) :
    Collects (vs ++ [(source, d)]) (front ++ joined :: back) := by
  have hids : (front ++ g :: back).map AggregationGroup.id = visitedIds vs := h.ids
  have hnodup : ((front ++ g :: back).map AggregationGroup.id).Nodup := hids ▸ nodup_eraseDups _
  have hjoined : joined.id = g.id := by
    obtain ⟨-, rfl⟩ := AggregationGroup.join_eq_ok hjoin
    rfl
  constructor
  · have hmem : d.id ∈ visitedIds vs := by
      rw [← hids, ← hid]
      exact List.mem_map_of_mem (List.mem_append_right _ List.mem_cons_self)
    rw [visitedIds_concat, if_pos hmem, ← hids, List.map_append, List.map_append, List.map_cons, List.map_cons, hjoined]
  · rw [List.map_append, List.map_cons] at hnodup
    obtain ⟨-, hrest, hdisjoint⟩ := List.nodup_append.mp hnodup
    intro g' hg'
    rcases List.mem_append.mp hg' with hg' | hg'
    · have hne : g'.id ≠ d.id := hid ▸ hdisjoint _ (List.mem_map_of_mem hg') _ List.mem_cons_self
      exact (h.sums g' (List.mem_append_left _ hg')).concat_of_ne hne
    rcases List.mem_cons.mp hg' with rfl | hg'
    · rw [hjoined, visitsOf_concat, if_pos hid.symm]
      exact (h.sums g (List.mem_append_right _ List.mem_cons_self)).join hjoin
    · have hne : g'.id ≠ d.id := by
        intro hsame
        exact (List.nodup_cons.mp hrest).1 (hid ▸ hsame ▸ List.mem_map_of_mem hg')
      exact (h.sums g' (List.mem_append_right _ (List.mem_cons_of_mem g hg'))).concat_of_ne hne

theorem insert {inserted : AggregationGroups} {v : Visit} (h : Collects vs groups)
    (hinsert : groups.insert v.1 v.2 = .ok inserted) : Collects (vs ++ [v]) inserted := by
  rcases AggregationGroups.insert_cases hinsert with
    ⟨hnew, rfl⟩ | ⟨front, g, back, joined, rfl, hid, -, hjoin, rfl⟩
  · exact h.concat hnew
  · exact h.join hid hjoin

/-- A visit and the group of its id agree. -/
theorem agree (h : Collects vs groups) {v : Visit} (hv : v ∈ vs) {g : AggregationGroup} (hg : g ∈ groups)
    (hid : v.2.id = g.id) : v.2.operators = g.operators ∧ v.2.interval = g.interval := by
  have hmem : v ∈ visitsOf vs g.id := List.mem_filter.mpr ⟨hv, decide_eq_true hid⟩
  exact ⟨(h.sums g hg).operators v hmem, (h.sums g hg).interval v hmem⟩

theorem consistent (h : Collects vs groups) : Consistent vs := by
  intro v hv w hw hid
  have hmem : v.2.id ∈ groups.map AggregationGroup.id := h.ids ▸ mem_visitedIds.mpr ⟨v, hv, rfl⟩
  obtain ⟨g, hg, hgid⟩ := List.mem_map.mp hmem
  obtain ⟨hoperators, hinterval⟩ := h.agree hv hg hgid.symm
  obtain ⟨hoperators', hinterval'⟩ := h.agree hw hg (hid.symm.trans hgid.symm)
  exact ⟨hoperators.trans hoperators'.symm, hinterval.trans hinterval'.symm⟩

end Collects

/-! ## Grouping all visits -/

/-- Groups visits one after the other. -/
def collect (vs : List Visit) : Result AggregationGroups :=
  vs.foldlM (fun groups v => groups.insert v.1 v.2) []

theorem ofSources_eq_collect (sources : List (String × List Descriptor)) :
    AggregationGroups.ofSources sources = collect (visits sources) := rfl

theorem collects_of_foldlM {rest vs : List Visit} {groups inserted : AggregationGroups} (h : Collects vs groups)
    (hrest : rest.foldlM (fun groups v => groups.insert v.1 v.2) groups = .ok inserted) :
    Collects (vs ++ rest) inserted := by
  induction rest generalizing vs groups with
  | nil =>
    obtain rfl := Except.ok.inj hrest
    rw [List.append_nil]
    exact h
  | cons v rest ih =>
    rw [List.foldlM_cons] at hrest
    obtain ⟨next, hnext, hrest⟩ := Result.bind_eq_ok.mp hrest
    have hall := ih (h.insert hnext) hrest
    rwa [List.append_assoc, List.singleton_append] at hall

theorem collects_of_collect {vs : List Visit} {groups : AggregationGroups} (h : collect vs = .ok groups) :
    Collects vs groups :=
  collects_of_foldlM .nil h

/-! ## What is refused -/

theorem AggregationGroup.conflict?_eq_some_iff {g : AggregationGroup} {first d : Descriptor} {field : DescriptorField}
    (hoperators : first.operators = g.operators) (hinterval : first.interval = g.interval) :
    g.conflict? d = some field ↔ first.Disagrees d field := by
  unfold conflict?
  rw [← hoperators, ← hinterval]
  constructor
  · intro h
    split at h
    · next hne =>
      obtain rfl := Option.some.inj h
      exact .operators hne
    · next heq =>
      split at h
      · next hne =>
        obtain rfl := Option.some.inj h
        exact .interval (not_not.mp heq) hne
      · cases h
  · rintro (hne | ⟨heq, hne⟩)
    · rw [if_pos hne]
    · rw [if_neg (not_not.mpr heq), if_pos hne]

/-- A visit is refused by a group of its id, for what the two disagree on. -/
theorem AggregationGroups.insert_eq_error {groups : AggregationGroups} {source : String} {d : Descriptor}
    {cause : ExportError} (h : groups.insert source d = .error cause) : ∃ g ∈ groups, g.id = d.id ∧
      ∃ field, g.conflict? d = some field ∧ cause = .inconsistentAggregation d.id source field := by
  induction groups with
  | nil => cases h
  | cons g groups ih =>
    unfold AggregationGroups.insert at h
    split at h
    · next hid =>
      cases hconflict : g.conflict? d with
      | none =>
        rw [AggregationGroup.join, hconflict] at h
        cases h
      | some field =>
        rw [AggregationGroup.join, hconflict] at h
        obtain rfl := Except.error.inj h
        exact ⟨g, List.mem_cons_self, hid, field, hconflict, hid ▸ rfl⟩
    · cases hrest : AggregationGroups.insert source d groups with
      | ok rest =>
        rw [hrest] at h
        cases h
      | error cause' =>
        rw [hrest] at h
        obtain rfl : cause' = cause := Except.error.inj h
        obtain ⟨g', hg', hrefused⟩ := ih hrest
        exact ⟨g', List.mem_cons_of_mem g hg', hrefused⟩

/-- After visits that are grouped, one is refused just if it disagrees with the first one of its id. -/
theorem Collects.insert_eq_error_iff {vs : List Visit} {groups : AggregationGroups} (h : Collects vs groups) {v : Visit}
    {cause : ExportError} : groups.insert v.1 v.2 = .error cause ↔ ∃ first field,
      vs.find? (·.2.id = v.2.id) = some first ∧ first.2.Disagrees v.2 field ∧
      cause = .inconsistentAggregation v.2.id v.1 field := by
  constructor
  · intro hinsert
    obtain ⟨g, hg, hid, field, hconflict, rfl⟩ := AggregationGroups.insert_eq_error hinsert
    have hvisited : v.2.id ∈ visitedIds vs := by
      rw [← h.ids, ← hid]
      exact List.mem_map_of_mem hg
    obtain ⟨w, hw, hwid⟩ := mem_visitedIds.mp hvisited
    obtain ⟨first, hfirst⟩ : ∃ first, vs.find? (·.2.id = v.2.id) = some first := by
      rw [← Option.isSome_iff_exists, List.find?_isSome]
      exact ⟨w, hw, decide_eq_true hwid⟩
    obtain ⟨hmem, hfirstId⟩ := mem_of_find?_visit hfirst
    obtain ⟨hoperators, hinterval⟩ := h.agree hmem hg (hfirstId.trans hid.symm)
    exact ⟨first, field, hfirst, (AggregationGroup.conflict?_eq_some_iff hoperators hinterval).mp hconflict, rfl⟩
  · rintro ⟨first, field, hfirst, hdisagrees, rfl⟩
    obtain ⟨hmem, hid⟩ := mem_of_find?_visit hfirst
    cases hinsert : groups.insert v.1 v.2 with
    | ok inserted =>
      -- then the two agree, as all that is grouped does
      have hagree := (h.insert hinsert).consistent v (List.mem_append_right _ List.mem_cons_self) first
        (List.mem_append_left _ hmem) hid.symm
      exact absurd hagree hdisagrees.not_agree
    | error cause =>
      obtain ⟨g, hg, hgid, field', hconflict, rfl⟩ := AggregationGroups.insert_eq_error hinsert
      obtain ⟨hoperators, hinterval⟩ := h.agree hmem hg (hid.trans hgid.symm)
      have hsame := (AggregationGroup.conflict?_eq_some_iff hoperators hinterval).mpr hdisagrees
      obtain rfl := Option.some.inj (hconflict.symm.trans hsame)
      rfl

/-- Visits are grouped just if all of one id agree. -/
theorem exists_collect_eq_ok_iff {vs : List Visit} : (∃ groups, collect vs = .ok groups) ↔ Consistent vs := by
  constructor
  · rintro ⟨groups, h⟩
    exact (collects_of_collect h).consistent
  · intro hconsistent
    cases h : collect vs with
    | ok groups => exact ⟨groups, rfl⟩
    | error cause =>
      obtain ⟨front, v, back, groups, rfl, hfront, hinsert⟩ := Result.foldlM_eq_error_iff.mp h
      obtain ⟨first, field, hfirst, hdisagrees, -⟩ := (collects_of_collect hfront).insert_eq_error_iff.mp hinsert
      obtain ⟨hmem, hid⟩ := mem_of_find?_visit hfirst
      have hagree := hconsistent v (List.mem_append_right _ List.mem_cons_self) first
        (List.mem_append_left _ hmem) hid.symm
      exact absurd hagree hdisagrees.not_agree

/-- Grouping is refused for the first visit that disagrees with the first one of its id. -/
theorem collect_eq_error_iff {vs : List Visit} {cause : ExportError} : collect vs = .error cause ↔
    ∃ front v back first field, vs = front ++ v :: back ∧ Consistent front ∧
      front.find? (·.2.id = v.2.id) = some first ∧ first.2.Disagrees v.2 field ∧
      cause = .inconsistentAggregation v.2.id v.1 field := by
  constructor
  · intro h
    obtain ⟨front, v, back, groups, rfl, hfront, hinsert⟩ := Result.foldlM_eq_error_iff.mp h
    have hcollects := collects_of_collect hfront
    obtain ⟨first, field, hrefused⟩ := hcollects.insert_eq_error_iff.mp hinsert
    exact ⟨front, v, back, first, field, rfl, hcollects.consistent, hrefused⟩
  · rintro ⟨front, v, back, first, field, rfl, hconsistent, hrefused⟩
    obtain ⟨groups, hfront⟩ := exists_collect_eq_ok_iff.mpr hconsistent
    have hinsert := (collects_of_collect hfront).insert_eq_error_iff.mpr ⟨first, field, hrefused⟩
    exact Result.foldlM_eq_error_iff.mpr ⟨front, v, back, groups, rfl, hfront, hinsert⟩

/-- **Grouping by its definition.** Descriptors are grouped just if any two of one id have the same operators and the
same interval. Then there is one group for each id, in the order in which the ids are first met. It has these
operators and this interval, a source for each descriptor of the id in the order they are met, and the retention that
all of them have, `infinite` if all have the empty one, or `multiple` if they differ. Else the first descriptor that
disagrees with the first one of its id is reported, by its id, its source and what it disagrees on. -/
theorem ofSources_groups (sources : List (String × List Descriptor)) :
    ((∃ groups, AggregationGroups.ofSources sources = .ok groups) ↔
      ∀ v ∈ visits sources, ∀ w ∈ visits sources, v.2.id = w.2.id →
        v.2.operators = w.2.operators ∧ v.2.interval = w.2.interval) ∧
    (∀ groups, AggregationGroups.ofSources sources = .ok groups →
      groups.map AggregationGroup.id = ((visits sources).map (·.2.id)).eraseDups ∧
      ∀ g ∈ groups, g.Sums ((visits sources).filter (·.2.id = g.id))) ∧
    ∀ cause, AggregationGroups.ofSources sources = .error cause ↔
      ∃ front v back first field, visits sources = front ++ v :: back ∧ Consistent front ∧
        front.find? (·.2.id = v.2.id) = some first ∧ first.2.Disagrees v.2 field ∧
        cause = .inconsistentAggregation v.2.id v.1 field := by
  rw [ofSources_eq_collect]
  refine ⟨exists_collect_eq_ok_iff, ?_, fun cause => collect_eq_error_iff⟩
  intro groups h
  have hcollects := collects_of_collect h
  exact ⟨hcollects.ids, hcollects.sums⟩

/-! ### Means that are kept for different times -/

/-- The second source keeps its means for longer than the others. The greatest values are kept for ever, and the sums
for a week by all who have them. -/
def meansKept : List (String × List Descriptor) :=
  [("a", [⟨"m", ["mean"], "1h", "7d"⟩, ⟨"g", ["max"], "1d", ""⟩]),
    ("b", [⟨"m", ["mean"], "1h", "30d"⟩, ⟨"s", ["sum"], "1h", "7d"⟩, ⟨"g", ["max"], "1d", ""⟩]),
    ("c", [⟨"m", ["mean"], "1h", "7d"⟩, ⟨"s", ["sum"], "1h", "7d"⟩])]

/-- They are grouped, the means without one retention, and a fourth source with means of two hours is refused. -/
theorem ofSources_groups_meansKept :
    (∃ means greatest sums, AggregationGroups.ofSources meansKept = .ok [means, greatest, sums] ∧
      means.sources = ["a", "b", "c"] ∧ means.retention = .multiple ∧
      greatest.sources = ["a", "b"] ∧ greatest.retention = .infinite ∧
      sums.sources = ["b", "c"] ∧ sums.retention = .duration "7d") ∧
    AggregationGroups.ofSources (meansKept ++ [("d", [⟨"m", ["mean"], "2h", "7d"⟩])]) =
      .error (.inconsistentAggregation "m" "d" .interval) := by
  constructor
  · have hgroups : AggregationGroups.ofSources meansKept = .ok [⟨"m", ["mean"], "1h", .multiple, ["a", "b", "c"]⟩,
        ⟨"g", ["max"], "1d", .infinite, ["a", "b"]⟩, ⟨"s", ["sum"], "1h", .duration "7d", ["b", "c"]⟩] := rfl
    obtain ⟨-, hsums⟩ := (ofSources_groups meansKept).2.1 _ hgroups
    obtain ⟨hmeans, hothers⟩ := List.forall_mem_cons.mp hsums
    obtain ⟨hgreatest, hsum⟩ := List.forall_mem_cons.mp hothers
    have hsum := hsum _ (List.mem_singleton_self _)
    refine ⟨_, _, _, hgroups, hmeans.sources, hmeans.mixed fun text => ?_, hgreatest.sources,
      hgreatest.infinite (by decide), hsum.sources, hsum.duration "7d" (by decide) (by decide)⟩
    by_cases htext : text = "7d"
    · subst htext
      exact ⟨("b", ⟨"m", ["mean"], "1h", "30d"⟩), by decide, by decide⟩
    · exact ⟨("a", ⟨"m", ["mean"], "1h", "7d"⟩), by decide, Ne.symm htext⟩
  · obtain ⟨-, -, herror⟩ := ofSources_groups (meansKept ++ [("d", [⟨"m", ["mean"], "2h", "7d"⟩])])
    exact (herror _).mpr ⟨visits meansKept, ("d", ⟨"m", ["mean"], "2h", "7d"⟩), [], ("a", ⟨"m", ["mean"], "1h", "7d"⟩),
      .interval, rfl, by decide, rfl, .interval rfl (by decide), rfl⟩

end SeriesExport
