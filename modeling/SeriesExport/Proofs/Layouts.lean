import SeriesExport.Proofs.Archive
import SeriesExport.Proofs.Csv
import SeriesExport.Proofs.Grouping

/-!
# All layouts have the same rows

The texts of tables that follow one another, with a line feed between any two, are the text of one long table
(`Csv.render_flatten`). So the table of all rows is the tables of the entities.

A job fetches its aggregations one after the other. The rows of each stand together then, and putting the rows of one
name together does not move any of them (`eraseDups_sourceNames`, `flatMap_rowsNamed`): the table of all rows is the
tables of the aggregations too (`serialize_sameRows`).
-/

namespace SeriesExport

/-! ## Tables one after the other -/

namespace Csv

/-- The texts of tables with a line feed between any two, where tables without rows do not count. -/
def joined (tables : List (List Row)) : String := "\n".intercalate ((tables.filter (· ≠ [])).map render)

theorem render_flatten_of_ne_nil : ∀ {tables : List (List Row)}, (∀ table ∈ tables, table ≠ []) →
    render tables.flatten = "\n".intercalate (tables.map render)
  | [], _ => rfl
  | [table], _ => by rw [List.flatten_singleton, List.map_singleton, String.intercalate_singleton]
  | table :: next :: tables, h => by
    have htable : table ≠ [] := h table List.mem_cons_self
    have hnext : next ≠ [] := h next (List.mem_cons_of_mem _ List.mem_cons_self)
    have hrest : (next :: tables).flatten ≠ [] := List.append_ne_nil_of_left_ne_nil hnext _
    have ih := render_flatten_of_ne_nil fun table htable => h table (List.mem_cons_of_mem _ htable)
    rw [List.flatten_cons, render_append htable hrest, ih]
    exact String.intercalate_cons_cons.symm

/-- A table that is cut into others is their texts with a line feed between any two. -/
theorem render_flatten (tables : List (List Row)) : render tables.flatten = joined tables := by
  rw [joined, ← render_flatten_of_ne_nil fun table htable => of_decide_eq_true (List.mem_filter.mp htable).2,
    List.flatten_filter_ne_nil]

end Csv

theorem serialize_singleFile {store : RowStore} {tables : List (List Row)} (h : tables.flatten = store.rows) :
    serialize store .singleFile = .ok ⟨"export.csv", "text/csv;charset=utf-8", .text (Csv.joined tables)⟩ := by
  rw [← Csv.render_flatten, h]
  rfl

/-! ## Tables of aggregations -/

theorem rowsNamed_of_forall {entries : List (Entity × List Row)} {name : String}
    (h : ∀ entry ∈ entries, entry.1.mergedName = name) : rowsNamed entries name = entries.flatMap Prod.snd := by
  rw [rowsNamed, List.filter_eq_self.mpr fun entry hentry => decide_eq_true (h entry hentry)]

/-- The names of all entities when the aggregations are fetched one after the other. -/
def sourceNames (ps : List AggregationProjection) : List String :=
  ps.flatMap fun p => List.replicate p.sources.length p.aggregation

theorem mem_map_aggregation_of_mem_sourceNames {ps : List AggregationProjection} {name : String}
    (h : name ∈ sourceNames ps) : name ∈ ps.map AggregationProjection.aggregation := by
  obtain ⟨p, hp, hname⟩ := List.mem_flatMap.mp h
  rw [List.eq_of_mem_replicate hname]
  exact List.mem_map_of_mem hp

/-- Each aggregation with sources comes once, in order. -/
theorem eraseDups_sourceNames : ∀ {ps : List AggregationProjection},
    (ps.map AggregationProjection.aggregation).Nodup → (∀ p ∈ ps, p.sources ≠ []) →
      (sourceNames ps).eraseDups = ps.map AggregationProjection.aggregation
  | [], _, _ => rfl
  | p :: ps, hids, hsources => by
    obtain ⟨hnew, hids⟩ := List.nodup_cons.mp hids
    obtain ⟨source, sources, hp⟩ := List.exists_cons_of_ne_nil (hsources p List.mem_cons_self)
    have hnames : sourceNames (p :: ps) = p.aggregation :: (List.replicate sources.length p.aggregation ++
        sourceNames ps) := by
      rw [sourceNames, List.flatMap_cons, hp]
      rfl
    have hsame : (List.replicate sources.length p.aggregation).filter (fun name => !name == p.aggregation) = [] :=
      List.filter_eq_nil_iff.mpr fun name hname => by simp [List.eq_of_mem_replicate hname]
    have hothers : (sourceNames ps).filter (fun name => !name == p.aggregation) = sourceNames ps :=
      List.filter_eq_self.mpr fun name hname => by
        simpa using ne_of_mem_of_not_mem (mem_map_aggregation_of_mem_sourceNames hname) hnew
    have ih := eraseDups_sourceNames hids fun q hq => hsources q (List.mem_cons_of_mem p hq)
    rw [hnames, List.eraseDups_cons, List.filter_append, hsame, hothers, List.nil_append, ih, List.map_cons]

/-- The rows of the aggregations are all rows, in their order. -/
theorem flatMap_rowsNamed : ∀ {ps : List AggregationProjection} {entries : List (Entity × List Row)},
    (ps.map AggregationProjection.aggregation).Nodup →
      (entries.map fun entry => entry.1.mergedName) = sourceNames ps →
        (ps.map AggregationProjection.aggregation).flatMap (rowsNamed entries) = entries.flatMap Prod.snd
  | [], entries, _, h => by
    rw [List.map_eq_nil_iff.mp h]
    rfl
  | p :: ps, entries, hids, h => by
    obtain ⟨hnew, hids⟩ := List.nodup_cons.mp hids
    obtain ⟨front, back, rfl, hfront, hback⟩ := List.map_eq_append_iff.mp h
    have hback : (back.map fun entry => entry.1.mergedName) = sourceNames ps := hback
    have hsame : ∀ name ∈ front.map fun entry => entry.1.mergedName, name = p.aggregation := by
      rw [hfront]
      exact fun name => List.eq_of_mem_replicate
    have hrows : rowsNamed front p.aggregation = front.flatMap Prod.snd :=
      rowsNamed_of_forall fun entry hentry => hsame _ (List.mem_map_of_mem hentry)
    have hnone : rowsNamed back p.aggregation = [] := rowsNamed_of_not_mem fun hmem =>
      hnew (mem_map_aggregation_of_mem_sourceNames (hback ▸ hmem))
    have hothers : ∀ name ∈ ps.map AggregationProjection.aggregation,
        rowsNamed (front ++ back) name = rowsNamed back name := by
      intro name hname
      have hfresh : rowsNamed front name = [] := rowsNamed_of_not_mem fun hmem => hnew (hsame name hmem ▸ hname)
      rw [rowsNamed_append, hfresh, List.nil_append]
    rw [List.map_cons, List.flatMap_cons, List.flatMap_append, rowsNamed_append, hrows, hnone, List.append_nil,
      List.flatMap_congr hothers, flatMap_rowsNamed hids hback]

theorem map_mergedName_aggregationTasks (ps : List AggregationProjection) :
    ((ps.flatMap ExportJob.aggregationTasks).map FetchTask.entity).map Entity.mergedName = sourceNames ps := by
  rw [List.map_map, List.map_flatMap]
  refine List.flatMap_congr fun p _ => ?_
  rw [ExportJob.aggregationTasks, List.map_map]
  exact List.map_const' ..

/-- What a job on groups has fetched, by its aggregations. -/
theorem mergeByAggregation_of_fetch {sources : List (String × List Descriptor)} {groups : AggregationGroups}
    (hgroups : AggregationGroups.ofSources sources = .ok groups) (hsources : ∀ g ∈ groups, g.sources.Nodup)
    {selection : AggregationSelection} {job : ExportJob} (hjob : ExportJob.ofAggregations selection groups = .ok job)
    {σ : Type} {env : Environment σ} {config : Config} {w : World σ} {store : RowStore}
    (hfetch : ((fetch config job job.tasks).run env w).1 = .ok store) :
    ∃ ps, job.target = .aggregations ps ∧
      mergeByAggregation store = ps.map (fun p => (p.aggregation, rowsNamed store.entries p.aggregation)) ∧
      (ps.map fun p => rowsNamed store.entries p.aggregation).flatten = store.rows := by
  have hformed := AggregationGroups.wellFormed_ofSources hgroups
  obtain ⟨ps, htarget, hids, hps⟩ := ExportJob.projections_of_ofAggregations hformed hjob
  have htasks : job.tasks = ps.flatMap ExportJob.aggregationTasks := by rw [ExportJob.tasks, htarget]
  have hdistinct : (job.tasks.map FetchTask.entity).Nodup := by
    rw [htasks]
    refine ExportJob.nodup_entities_aggregationTasks hids fun p hp => ?_
    obtain ⟨g, hg, -, hsame⟩ := hps p hp
    exact hsame ▸ hsources g hg
  have hnames : (store.entries.map fun entry => entry.1.mergedName) = sourceNames ps := by
    rw [← map_mergedName_aggregationTasks, ← htasks, ← entities_of_fetch hdistinct hfetch, RowStore.entities, List.map_map]
    rfl
  have hsome : ∀ p ∈ ps, p.sources ≠ [] := fun p hp => by
    obtain ⟨g, hg, -, hsame⟩ := hps p hp
    exact hsame ▸ hformed.sources_ne_nil g hg
  refine ⟨ps, htarget, ?_, ?_⟩
  · rw [mergeByAggregation_eq, hnames, eraseDups_sourceNames hids hsome, List.map_map]
    rfl
  · rw [← List.flatMap_def, ← List.flatMap_map AggregationProjection.aggregation (rowsNamed store.entries)]
    exact flatMap_rowsNamed hids hnames

/-- **All layouts have the same rows.** The table of all rows is the tables of the entities, or for a job on groups
without repeated sources the tables of its aggregations, each joined to the next by one line feed. Tables without rows
are left out. -/
theorem serialize_sameRows (store : RowStore) :
    let singleFile : List (List Row) → Artifact := fun tables =>
      ⟨"export.csv", "text/csv;charset=utf-8", .text (Csv.joined tables)⟩
    let archive : List (String × List Row) → Artifact := fun tables =>
      ⟨"export.zip", "application/zip", .archive (tables.map memberOf)⟩
    (∀ a b : List Row, a ≠ [] → b ≠ [] → Csv.render (a ++ b) = Csv.render a ++ "\n" ++ Csv.render b) ∧
    serialize store .singleFile = .ok (singleFile (store.entries.map Prod.snd)) ∧
    (∀ file, serialize store .perEntity = .ok file →
      file = archive (store.entries.map fun entry => (entry.1.name, entry.2))) ∧
    ∀ {sources : List (String × List Descriptor)} {groups : AggregationGroups},
      AggregationGroups.ofSources sources = .ok groups → (∀ g ∈ groups, g.sources.Nodup) →
    ∀ {selection : AggregationSelection} {job : ExportJob}, ExportJob.ofAggregations selection groups = .ok job →
    ∀ {σ : Type} {env : Environment σ} {config : Config} {w : World σ},
      ((fetch config job job.tasks).run env w).1 = .ok store →
    ∃ ps, job.target = .aggregations ps ∧
      let tables := ps.map fun p => (p.aggregation, rowsNamed store.entries p.aggregation)
      serialize store .perAggregation = .ok (archive tables) ∧
        serialize store .singleFile = .ok (singleFile (tables.map Prod.snd)) := by
  intro singleFile archive
  refine ⟨fun a b => Csv.render_append, serialize_singleFile rfl, fun file hfile => ?_, ?_⟩
  · rw [eq_of_archiveOf_eq_ok hfile]
  · intro sources groups hgroups hsources selection job hjob σ env config w hfetch
    obtain ⟨ps, htarget, hmerged, hrows⟩ := mergeByAggregation_of_fetch hgroups hsources hjob hfetch
    refine ⟨ps, htarget, ?_, serialize_singleFile ?_⟩
    · rw [serialize_perAggregation, hmerged]
    · rw [List.map_map]
      exact hrows

/-- Three series of means. -/
def means : List (String × List Descriptor) :=
  [("a", [⟨"m", ["mean"], "1h", ""⟩, ⟨"k", ["mean"], "1d", ""⟩]), ("b", [⟨"m", ["mean"], "1h", ""⟩])]

def namesOfMeans : AggregationSelection := { choices := [⟨"k", "name"⟩, ⟨"m", "name"⟩] }

/-- The rows of both sources of `m` come first. -/
theorem serialize_sameRows_means :
    let w : World (Stream' Reply) := { server := Stream'.const twoRecordsReply }
    ∃ groups job store, AggregationGroups.ofSources means = .ok groups ∧
      ExportJob.ofAggregations namesOfMeans groups = .ok job ∧
      ((fetch smallPages job job.tasks).run Environment.inTurn w).1 = .ok store ∧
      serialize store .perAggregation =
        .ok ⟨"export.zip", "application/zip", .archive [⟨"m.csv", "x\nx"⟩, ⟨"k.csv", "x"⟩]⟩ ∧
      serialize store .singleFile = .ok ⟨"export.csv", "text/csv;charset=utf-8", .text "x\nx\nx"⟩ := by
  intro w
  refine ⟨_, _, _, rfl, rfl, run_fetch_twoRecords _ (by decide), ?_⟩
  obtain ⟨ps, htarget, harchive, hfile⟩ := (serialize_sameRows _).2.2.2
    (rfl : AggregationGroups.ofSources means = .ok _) (by decide)
    (rfl : ExportJob.ofAggregations namesOfMeans _ = .ok _) (run_fetch_twoRecords _ (by decide))
  cases htarget
  exact ⟨harchive, hfile⟩

end SeriesExport
