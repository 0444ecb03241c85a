import Mathlib.Data.List.Flatten
import Mathlib.Data.List.Perm.Basic
import SeriesExport.Proofs.Archive

/-!
# A table for each aggregation

Whatever entities of aggregations are committed, and in whatever order, an archive with a file for each aggregation is
written. `aggregationsOf` says which tables it has, and `tableOf` what is in them: the rows of the entities of the
aggregation, both in the order in which they were first committed, the rows of an entity being those of its last commit.

No row is in two tables and none is lost (`perm_flatMap_entitiesOf`), and rows of one table keep their order
(`sublist_tableOf`).
-/

namespace SeriesExport

/-! ## Parts of a list -/

section

variable {α κ : Type} [DecidableEq κ]

/-- A list is cut into parts by a key. -/
theorem perm_flatMap_filter (key : α → κ) : ∀ {keys : List κ} {items : List α}, keys.Nodup →
    (∀ item ∈ items, key item ∈ keys) → (keys.flatMap fun k => items.filter (key · = k)).Perm items
  | [], items, _, h => by
    rw [List.eq_nil_iff_forall_not_mem.mpr fun item hitem => List.not_mem_nil (h item hitem)]
    exact .nil
  | k :: keys, items, hnodup, h => by
    obtain ⟨hk, hnodup⟩ := List.nodup_cons.mp hnodup
    have hrest (k' : κ) (hk' : k' ∈ keys) :
        items.filter (key · = k') = (items.filter (key · ≠ k)).filter (key · = k') := by
      rw [List.filter_filter]
      refine List.filter_congr fun item _ => ?_
      have hne : k' ≠ k := ne_of_mem_of_not_mem hk' hk
      by_cases hitem : key item = k' <;> simp [hitem, hne]
    have hcovered : ∀ item ∈ items.filter (key · ≠ k), key item ∈ keys := by
      intro item hitem
      obtain ⟨hitem, hne⟩ := List.mem_filter.mp hitem
      exact (List.mem_cons.mp (h item hitem)).resolve_left (of_decide_eq_true hne)
    have ih := perm_flatMap_filter key hnodup hcovered
    have hsplit : items.filter (fun item => !decide (key item = k)) = items.filter (key · ≠ k) :=
      List.filter_congr fun item _ => (decide_not ..).symm
    rw [List.flatMap_cons, List.flatMap_congr hrest]
    exact (ih.append_left _).trans (hsplit ▸ List.filter_append_perm _ items)

theorem filter_eraseDups [DecidableEq α] (p : α → Bool) (l : List α) :
    l.eraseDups.filter p = (l.filter p).eraseDups := by
  induction l using List.reverseRecOn with
  | nil => rfl
  | append_singleton l a ih =>
    rw [eraseDups_concat, List.filter_append]
    by_cases hp : p a = true
    · have hlast : [a].filter p = [a] := List.filter_eq_self.mpr (by simpa using hp)
      rw [hlast, eraseDups_concat]
      simp only [List.mem_filter, hp, and_true]
      split
      · exact ih
      · rw [List.filter_append, ih, hlast]
    · have hlast : [a].filter p = [] := List.filter_eq_nil_iff.mpr (by simpa using hp)
      rw [hlast, List.append_nil]
      split
      · exact ih
      · rw [List.filter_append, ih, hlast, List.append_nil]

end

/-! ## Tables of commits -/

variable {commits : List (Entity × List Row)}

/-- The aggregations of which something is committed, in the order of their first commits. -/
def aggregationsOf (commits : List (Entity × List Row)) : List String :=
  (commits.filterMap fun commit => commit.1.aggregation?).eraseDups

/-- The entities of an aggregation in the order of their first commits. -/
def entitiesOf (commits : List (Entity × List Row)) (aggregation : String) : List Entity :=
  ((commits.map Prod.fst).filter (·.aggregation? = some aggregation)).eraseDups

/-- The rows of the last commit of an entity. -/
def lastRows (commits : List (Entity × List Row)) (e : Entity) : List Row := (commits.reverse.lookup e).getD []

/-- The rows of all entities of an aggregation, one entity after the other. -/
def tableOf (commits : List (Entity × List Row)) (aggregation : String) : List Row :=
  (entitiesOf commits aggregation).flatMap (lastRows commits)

theorem nodup_aggregationsOf : (aggregationsOf commits).Nodup := nodup_eraseDups _

theorem entries_commitAll (commits : List (Entity × List Row)) : (RowStore.commitAll {} commits).entries =
    (commits.map Prod.fst).eraseDups.map fun e => (e, lastRows commits e) := by
  have hentities := RowStore.entities_commitAll commits
  rw [RowStore.entries_eq_map (hentities ▸ nodup_eraseDups _), hentities]
  simp only [RowStore.get?_commitAll]
  rfl

theorem rows_commitAll (commits : List (Entity × List Row)) :
    (RowStore.commitAll {} commits).rows = (commits.map Prod.fst).eraseDups.flatMap (lastRows commits) := by
  rw [RowStore.rows, entries_commitAll, List.flatMap_map]

theorem entitiesOf_eq (commits : List (Entity × List Row)) (aggregation : String) : entitiesOf commits aggregation =
    (commits.map Prod.fst).eraseDups.filter (·.aggregation? = some aggregation) :=
  (filter_eraseDups _ _).symm

theorem sublist_tableOf (commits : List (Entity × List Row)) (aggregation : String) :
    (tableOf commits aggregation).Sublist (RowStore.commitAll {} commits).rows := by
  rw [rows_commitAll, tableOf, entitiesOf_eq]
  exact List.filter_sublist.flatMap _

theorem Entity.mergedName_eq_iff {e : Entity} (he : e.aggregation?.isSome = true) (a : String) :
    e.mergedName = a ↔ e.aggregation? = some a := by
  obtain ⟨b, hb⟩ := Option.isSome_iff_exists.mp he
  rw [mergedName, hb, Option.getD_some, Option.some_inj]

section

variable (h : ∀ commit ∈ commits, commit.1.aggregation?.isSome = true)
include h

/-- Each entity is one of just one aggregation. -/
theorem perm_flatMap_entitiesOf :
    ((aggregationsOf commits).flatMap (entitiesOf commits)).Perm (commits.map Prod.fst).eraseDups := by
  have hcovered : ∀ e ∈ (commits.map Prod.fst).eraseDups, e.aggregation? ∈ (aggregationsOf commits).map some := by
    intro e he
    obtain ⟨commit, hcommit, rfl⟩ := List.mem_map.mp (List.mem_eraseDups.mp he)
    obtain ⟨a, ha⟩ := Option.isSome_iff_exists.mp (h commit hcommit)
    rw [ha]
    exact List.mem_map_of_mem (List.mem_eraseDups.mpr (List.mem_filterMap.mpr ⟨commit, hcommit, ha⟩))
  have hperm := perm_flatMap_filter Entity.aggregation?
    (nodup_aggregationsOf.map fun _ _ => Option.some.inj) hcovered
  rw [List.flatMap_map] at hperm
  simp only [← entitiesOf_eq] at hperm
  exact hperm

theorem perm_flatMap_tableOf :
    ((aggregationsOf commits).flatMap (tableOf commits)).Perm (RowStore.commitAll {} commits).rows := by
  have htables : (aggregationsOf commits).flatMap (tableOf commits) =
      ((aggregationsOf commits).flatMap (entitiesOf commits)).flatMap (lastRows commits) := List.flatMap_assoc.symm
  rw [rows_commitAll, htables]
  exact (perm_flatMap_entitiesOf h).flatMap_right _

/-- The tables that are put together are those of the aggregations. -/
theorem mergeByAggregation_commitAll : mergeByAggregation (RowStore.commitAll {} commits) =
    (aggregationsOf commits).map fun a => (a, tableOf commits a) := by
  have hentity : ∀ e ∈ (commits.map Prod.fst).eraseDups, e.aggregation?.isSome = true := by
    intro e he
    obtain ⟨commit, hcommit, rfl⟩ := List.mem_map.mp (List.mem_eraseDups.mp he)
    exact h commit hcommit
  have hnames : ((RowStore.commitAll {} commits).entries.map fun entry => entry.1.mergedName).eraseDups =
      aggregationsOf commits := by
    have hname : ∀ commit ∈ commits, some commit.1.mergedName = commit.1.aggregation? := fun commit hcommit =>
      ((Entity.mergedName_eq_iff (h commit hcommit) _).mp rfl).symm
    rw [entries_commitAll, List.map_map, aggregationsOf, ← List.filterMap_congr hname, List.filterMap_eq_map']
    exact (eraseDups_map_eraseDups Entity.mergedName _).trans (by rw [List.map_map]; rfl)
  have hrows (a : String) : rowsNamed (RowStore.commitAll {} commits).entries a = tableOf commits a := by
    rw [rowsNamed, entries_commitAll, List.filter_map, List.flatMap_map, tableOf, entitiesOf_eq]
    refine congrArg (List.flatMap (lastRows commits)) (List.filter_congr fun e he => ?_)
    exact decide_eq_decide.mpr (Entity.mergedName_eq_iff (hentity e he) a)
  rw [mergeByAggregation_eq, hnames]
  simp only [hrows]

end

/-- **Putting the rows of each aggregation together is a stable partition.** Whatever entities of aggregations are
committed, the archive is written. It has one member for each aggregation, in the order of their first commits, with the
rows of all entities of the aggregation. Each row is in just one member, rows of a member keep their order, and a
member without rows is empty. -/
theorem serialize_commitAll_perAggregation (h : ∀ commit ∈ commits, commit.1.aggregation?.isSome = true) :
    let store := RowStore.commitAll {} commits
    let members := (aggregationsOf commits).map fun a => (⟨a ++ ".csv", Csv.render (tableOf commits a)⟩ : Member)
    serialize store .perAggregation = .ok ⟨"export.zip", "application/zip", .archive members⟩ ∧
      (members.map Member.name).Nodup ∧
      ((aggregationsOf commits).flatMap (entitiesOf commits)).Perm store.entities ∧
      ((aggregationsOf commits).flatMap (tableOf commits)).Perm store.rows ∧
      (∀ a, (tableOf commits a).Sublist store.rows) ∧
      ∀ a ∈ aggregationsOf commits, tableOf commits a = [] → ⟨a ++ ".csv", ""⟩ ∈ members := by
  intro store members
  have hmerged := mergeByAggregation_commitAll h
  have hmembers : members = (mergeByAggregation store).map memberOf := by
    rw [hmerged, List.map_map]
    rfl
  refine ⟨?_, ?_, ?_, perm_flatMap_tableOf h, sublist_tableOf commits, fun a ha hempty => ?_⟩
  · rw [hmembers]
    exact serialize_perAggregation store
  · rw [hmembers, nodup_map_memberOf, map_fst_mergeByAggregation]
    exact nodup_eraseDups _
  · rw [RowStore.entities_commitAll]
    exact perm_flatMap_entitiesOf h
  · have hmember := List.mem_map_of_mem (f := fun a => (⟨a ++ ".csv", Csv.render (tableOf commits a)⟩ : Member)) ha
    rw [hempty] at hmember
    exact hmember

/-- Two sources of `a` with one of `b` between them, `c` without rows, and rows of `a` that are replaced. -/
def interleaved : List (Entity × List Row) :=
  [(.aggregation "a" "s", [[.string "1"]]), (.aggregation "b" "s", [[.string "2"]]),
    (.aggregation "a" "t", [[.string "3"]]), (.aggregation "c" "s", []),
    (.aggregation "a" "s", [[.string "4"], [.string "5"]])]

theorem serialize_commitAll_perAggregation_interleaved :
    (∀ commit ∈ interleaved, commit.1.aggregation?.isSome = true) ∧
      serialize (RowStore.commitAll {} interleaved) .perAggregation = .ok ⟨"export.zip", "application/zip",
        .archive [⟨"a.csv", "4\n5\n3"⟩, ⟨"b.csv", "2"⟩, ⟨"c.csv", ""⟩]⟩ := by
  have hentities : ∀ commit ∈ interleaved, commit.1.aggregation?.isSome = true := by decide
  have hmembers : (aggregationsOf interleaved).map
      (fun a => (⟨a ++ ".csv", Csv.render (tableOf interleaved a)⟩ : Member)) =
      [⟨"a.csv", "4\n5\n3"⟩, ⟨"b.csv", "2"⟩, ⟨"c.csv", ""⟩] := by cbv
  obtain ⟨hwritten, -⟩ := serialize_commitAll_perAggregation hentities
  exact ⟨hentities, hmembers ▸ hwritten⟩

end SeriesExport
