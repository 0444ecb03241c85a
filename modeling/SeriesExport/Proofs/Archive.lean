import SeriesExport.Proofs.Commits
import SeriesExport.Proofs.Plan

/-!
# Archives of what has been fetched

A fetch that is not cut short commits the rows of every entity (`entities_of_fetch`).

- An archive is written if no two members have one name, and refused at the first name that comes again
  (`archiveMembers_of_nodup`, `archiveMembers_of_repeated`).
- The rows of one name are put together, names in the order in which they first come (`mergeByAggregation_eq`). So an
  archive with a file for each aggregation never has a name twice.
- Different entities may have one name, for an id may have underscores (`Entity.Clash`, `Entity.name_eq_name_iff`).
  This is all that an export can fail at after its last page (`serialize_of_fetch`).
-/

namespace SeriesExport

/-! ## What a fetch commits -/

theorem entities_of_fetchTasks {σ : Type} (env : Environment σ) (setting : FetchSetting) (all : ℕ) {fetched : RowStore} :
    ∀ (tasks : List FetchTask) (store : RowStore) {w : World σ},
    (store.entities ++ tasks.map FetchTask.entity).Nodup →
      ((fetchTasks setting all tasks store).run env w).1 = .ok fetched →
        fetched.entities = store.entities ++ tasks.map FetchTask.entity
  | [], store, w, _, h => by
    obtain rfl : store = fetched := Except.ok.inj h
    exact (List.append_nil _).symm
  | task :: waiting, store, w, hnodup, h => by
    rw [fetchTasks_cons, Dialogue.run_report, Dialogue.run_bind] at h
    cases hrows : (((TaskRun.start task (setting.config.perPage task.entity)).fetchPages setting).run env
      (w.report env (.main (doneFraction (waiting.length + 1) all)))).1 with
    | error cause =>
      rw [hrows] at h
      cases h
    | ok rows =>
      rw [hrows] at h
      have hfresh : task.entity ∉ store.entities := fun hmem =>
        (List.nodup_append.mp hnodup).2.2 _ hmem _ List.mem_cons_self rfl
      have hentities : (store.commit task.entity rows).entities = store.entities ++ [task.entity] := by
        rw [RowStore.entities, RowStore.entries_commit_of_not_mem store hfresh, List.map_append]
        rfl
      have hnodup' : ((store.commit task.entity rows).entities ++ waiting.map FetchTask.entity).Nodup := by
        rw [hentities, List.append_assoc]
        exact hnodup
      rw [entities_of_fetchTasks env setting all waiting _ hnodup' h, hentities, List.append_assoc]
      rfl

/-- A fetch of different entities has an entry for each of them, in the order of the tasks. -/
theorem entities_of_fetch {σ : Type} {env : Environment σ} {config : Config} {job : ExportJob} {tasks : List FetchTask}
    (hdistinct : (tasks.map FetchTask.entity).Nodup) {w : World σ} {fetched : RowStore}
    (h : ((fetch config job tasks).run env w).1 = .ok fetched) : fetched.entities = tasks.map FetchTask.entity := by
  unfold fetch at h
  split at h
  · cases h
  · exact entities_of_fetchTasks env _ _ tasks {} hdistinct h

/-! ## Members of archives -/

theorem archiveMembers_of_nodup : ∀ (ms written : List Member), ((written ++ ms).map Member.name).Nodup →
    archiveMembers written ms = .ok (written ++ ms)
  | [], written, _ => by rw [archiveMembers, List.append_nil]
  | m :: ms, written, h => by
    have hfresh : m.name ∉ written.map Member.name := by
      rw [List.map_append] at h
      exact fun hmem => (List.nodup_append.mp h).2.2 _ hmem _ List.mem_cons_self rfl
    rw [List.append_cons] at h ⊢
    rw [archiveMembers, if_neg hfresh, archiveMembers_of_nodup ms (written ++ [m]) h]

/-- An archive is refused at the first name that comes again. -/
theorem archiveMembers_of_repeated : ∀ (ms written : List Member), (written.map Member.name).Nodup →
    ¬((written ++ ms).map Member.name).Nodup → ∃ front m back, ms = front ++ m :: back ∧
      m.name ∈ (written ++ front).map Member.name ∧ archiveMembers written ms = .error (.duplicateMember m.name)
  | [], written, hwritten, h => by
    rw [List.append_nil] at h
    exact absurd hwritten h
  | m :: ms, written, hwritten, h => by
    by_cases hmem : m.name ∈ written.map Member.name
    · exact ⟨[], m, ms, rfl, by rwa [List.append_nil], by rw [archiveMembers, if_pos hmem]⟩
    · have hwritten' : ((written ++ [m]).map Member.name).Nodup := by
        rw [List.map_append]
        exact Catalog.nodup_concat hwritten hmem
      rw [List.append_cons] at h
      obtain ⟨front, m', back, rfl, hname, herror⟩ := archiveMembers_of_repeated ms (written ++ [m]) hwritten' h
      refine ⟨m :: front, m', back, rfl, by rwa [List.append_cons], ?_⟩
      rw [archiveMembers, if_neg hmem, herror]

/-- The tables of an archive as its members. -/
def memberOf (table : String × List Row) : Member := ⟨table.1 ++ ".csv", Csv.render table.2⟩

theorem nodup_map_memberOf {tables : List (String × List Row)} :
    ((tables.map memberOf).map Member.name).Nodup ↔ (tables.map Prod.fst).Nodup := by
  have hnames : (tables.map memberOf).map Member.name = (tables.map Prod.fst).map (· ++ ".csv") := by
    rw [List.map_map, List.map_map]
    rfl
  rw [hnames, List.nodup_map_iff fun a b hab => (String.append_left_inj ".csv").mp hab]

theorem archiveOf_of_nodup {tables : List (String × List Row)} (h : (tables.map Prod.fst).Nodup) :
    archiveOf tables = .ok ⟨"export.zip", "application/zip", .archive (tables.map memberOf)⟩ := by
  have hmembers := archiveMembers_of_nodup (tables.map memberOf) [] (nodup_map_memberOf.mpr h)
  show (archiveMembers [] (tables.map memberOf)).bind _ = _
  rw [hmembers]
  rfl

theorem archiveOf_of_repeated {tables : List (String × List Row)} (h : ¬(tables.map Prod.fst).Nodup) :
    ∃ front table back, tables = front ++ table :: back ∧ table.1 ∈ front.map Prod.fst ∧
      archiveOf tables = .error (.duplicateMember (table.1 ++ ".csv")) := by
  obtain ⟨members, m, back, hsplit, hname, herror⟩ := archiveMembers_of_repeated (tables.map memberOf) []
    List.nodup_nil fun hnodup => h (nodup_map_memberOf.mp hnodup)
  obtain ⟨front, rest, rfl, rfl, hrest⟩ := List.map_eq_append_iff.mp hsplit
  obtain ⟨table, tables, rfl, rfl, -⟩ := List.map_eq_cons_iff.mp hrest
  refine ⟨front, table, tables, rfl, ?_, ?_⟩
  · obtain ⟨member, hmember, hsame⟩ := List.mem_map.mp hname
    obtain ⟨other, hother, rfl⟩ := List.mem_map.mp hmember
    exact List.mem_map.mpr ⟨other, hother, (String.append_left_inj ".csv").mp hsame⟩
  · show (archiveMembers [] ((front ++ table :: tables).map memberOf)).bind _ = _
    rw [herror]
    rfl

theorem eq_of_archiveOf_eq_ok {tables : List (String × List Row)} {file : Artifact} (h : archiveOf tables = .ok file) :
    file = ⟨"export.zip", "application/zip", .archive (tables.map memberOf)⟩ := by
  by_cases hnodup : (tables.map Prod.fst).Nodup
  · exact (Except.ok.inj ((archiveOf_of_nodup hnodup).symm.trans h)).symm
  · obtain ⟨_, _, _, _, _, hrefused⟩ := archiveOf_of_repeated hnodup
    rw [hrefused] at h
    cases h

/-! ## Rows put together -/

/-- All rows under one name, in the order of their entities. -/
def rowsNamed (entries : List (Entity × List Row)) (name : String) : List Row :=
  (entries.filter (·.1.mergedName = name)).flatMap Prod.snd

theorem rowsNamed_append (front back : List (Entity × List Row)) (name : String) :
    rowsNamed (front ++ back) name = rowsNamed front name ++ rowsNamed back name := by
  simp [rowsNamed]

theorem rowsNamed_singleton (entry : Entity × List Row) (name : String) :
    rowsNamed [entry] name = if entry.1.mergedName = name then entry.2 else [] := by
  by_cases h : entry.1.mergedName = name <;> simp [rowsNamed, h]

theorem mergeInto_of_not_mem {name : String} (rows : List Row) : ∀ {tables : List (String × List Row)},
    name ∉ tables.map Prod.fst → mergeInto name rows tables = tables ++ [(name, rows)]
  | [], _ => rfl
  | (other, old) :: rest, h => by
    rw [List.map_cons, List.mem_cons, not_or] at h
    rw [mergeInto, if_neg (Ne.symm h.1), mergeInto_of_not_mem rows h.2, List.cons_append]

theorem mergeInto_of_mem {name : String} (rows : List Row) (f : String → List Row) : ∀ {names : List String},
    names.Nodup → name ∈ names → mergeInto name rows (names.map fun n => (n, f n)) =
      names.map fun n => (n, f n ++ if name = n then rows else [])
  | other :: names, hnodup, h => by
    obtain ⟨hother, hnodup⟩ := List.nodup_cons.mp hnodup
    by_cases hname : other = name
    · subst hname
      have hrest : (names.map fun n => (n, f n ++ if other = n then rows else [])) = names.map fun n => (n, f n) := by
        refine List.map_congr_left fun n hn => ?_
        rw [if_neg (ne_of_mem_of_not_mem hn hother).symm, List.append_nil]
      rw [List.map_cons, mergeInto, if_pos rfl, List.map_cons, if_pos rfl, hrest]
    · have hmem : name ∈ names := (List.mem_cons.mp h).resolve_left (Ne.symm hname)
      rw [List.map_cons, mergeInto, if_neg hname, mergeInto_of_mem rows f hnodup hmem, List.map_cons,
        if_neg (Ne.symm hname), List.append_nil]

theorem rowsNamed_of_not_mem {entries : List (Entity × List Row)} {name : String}
    (h : name ∉ entries.map fun entry => entry.1.mergedName) : rowsNamed entries name = [] := by
  rw [rowsNamed, List.filter_eq_nil_iff.mpr, List.flatMap_nil]
  intro entry hentry hname
  exact h (List.mem_map.mpr ⟨entry, hentry, of_decide_eq_true hname⟩)

/-- The names come in the order in which they are first met, each with all of its rows. -/
theorem mergeByAggregation_eq (store : RowStore) : mergeByAggregation store =
    (store.entries.map fun entry => entry.1.mergedName).eraseDups.map
      fun name => (name, rowsNamed store.entries name) := by
  unfold mergeByAggregation
  induction store.entries using List.reverseRecOn with
  | nil => rfl
  | append_singleton entries entry ih =>
    rw [List.foldl_append, ih, List.map_append, List.map_singleton, eraseDups_concat]
    simp only [List.foldl_cons, List.foldl_nil, rowsNamed_append, rowsNamed_singleton]
    split
    · next h => rw [mergeInto_of_mem _ _ (nodup_eraseDups _) (List.mem_eraseDups.mpr h)]
    · next h =>
      have hfresh : entry.1.mergedName ∉ ((entries.map fun entry => entry.1.mergedName).eraseDups.map
          fun name => (name, rowsNamed entries name)).map Prod.fst := by
        rw [List.map_map]
        simpa using h
      have hold : ((entries.map fun entry => entry.1.mergedName).eraseDups.map fun name =>
          (name, rowsNamed entries name ++ if entry.1.mergedName = name then entry.2 else [])) =
            (entries.map fun entry => entry.1.mergedName).eraseDups.map fun name => (name, rowsNamed entries name) := by
        refine List.map_congr_left fun name hname => ?_
        rw [if_neg (ne_of_mem_of_not_mem (List.mem_eraseDups.mp hname) h).symm, List.append_nil]
      rw [mergeInto_of_not_mem entry.2 hfresh, List.map_append, hold, List.map_singleton, rowsNamed_of_not_mem h,
        if_pos rfl, List.nil_append]

theorem map_fst_mergeByAggregation (store : RowStore) : (mergeByAggregation store).map Prod.fst =
    (store.entries.map fun entry => entry.1.mergedName).eraseDups := by
  rw [mergeByAggregation_eq, List.map_map]
  exact List.map_id' _

/-- An archive with a file for each aggregation is always written. -/
theorem serialize_perAggregation (store : RowStore) : serialize store .perAggregation =
    .ok ⟨"export.zip", "application/zip", .archive ((mergeByAggregation store).map memberOf)⟩ :=
  archiveOf_of_nodup (map_fst_mergeByAggregation store ▸ nodup_eraseDups _)

/-! ## Names of entities -/

namespace Entity

/-- Two entities that have one name: the first has an underscore in its id where the second has the underscore between
its ids. -/
inductive Clash : Entity → Entity → Prop
  | source (a s : String) : Clash (.source (a ++ "_" ++ s)) (.aggregation a s)
  | aggregation (a t s : String) : Clash (.aggregation (a ++ "_" ++ t) s) (.aggregation a (t ++ "_" ++ s))

theorem Clash.name_eq {e e' : Entity} (h : e.Clash e') : e.name = e'.name := by
  cases h with
  | source a s => rfl
  | aggregation a t s => simp only [name, String.append_assoc]

/-- A text is cut at one underscore or at another. -/
theorem append_cons_eq_append_cons {a b c d : List Char} {sep : Char} (h : a ++ sep :: b = c ++ sep :: d) :
    (a = c ∧ b = d) ∨ (∃ t, c = a ++ sep :: t ∧ b = t ++ sep :: d) ∨ ∃ t, a = c ++ sep :: t ∧ d = t ++ sep :: b := by
  obtain ⟨t, hc, hb⟩ | ⟨t, ha, hd⟩ := List.append_eq_append_iff.mp h
  · cases t with
    | nil => exact .inl ⟨by rw [hc, List.append_nil], (List.cons.inj hb).2⟩
    | cons x t =>
      obtain ⟨rfl, rfl⟩ := List.cons.inj hb
      exact .inr (.inl ⟨t, hc, rfl⟩)
  · cases t with
    | nil => exact .inl ⟨by rw [ha, List.append_nil], (List.cons.inj hd).2.symm⟩
    | cons x t =>
      obtain ⟨rfl, rfl⟩ := List.cons.inj hd
      exact .inr (.inr ⟨t, ha, rfl⟩)

theorem toList_name_aggregation (a s : String) : (aggregation a s).name.toList = a.toList ++ '_' :: s.toList := by
  simp [name]

theorem eq_append_underscore {text : String} {front back : List Char} (h : text.toList = front ++ '_' :: back) :
    text = String.ofList front ++ "_" ++ String.ofList back := by
  rw [← String.toList_inj]
  simp [h]

/-- Entities of one name are the same, or one has an underscore in its id. -/
theorem name_eq_name_iff {e e' : Entity} : e.name = e'.name ↔ e = e' ∨ e.Clash e' ∨ e'.Clash e := by
  constructor
  · intro h
    match e, e' with
    | .source id, .source id' => exact .inl (congrArg source h)
    | .source id, .aggregation a s =>
      have hid : id = a ++ "_" ++ s := h
      exact .inr (.inl (hid ▸ .source a s))
    | .aggregation a s, .source id =>
      have hid : a ++ "_" ++ s = id := h
      exact .inr (.inr (hid ▸ .source a s))
    | .aggregation a s, .aggregation a' s' =>
      have hlist := congrArg String.toList h
      rw [toList_name_aggregation, toList_name_aggregation] at hlist
      obtain ⟨ha, hs⟩ | ⟨t, ha, hs⟩ | ⟨t, ha, hs⟩ := append_cons_eq_append_cons hlist
      · exact .inl (by rw [String.toList_inj.mp ha, String.toList_inj.mp hs])
      · right; right
        rw [eq_append_underscore ha, eq_append_underscore hs, String.ofList_toList, String.ofList_toList]
        exact .aggregation a (String.ofList t) s'
      · right; left
        rw [eq_append_underscore ha, eq_append_underscore hs, String.ofList_toList, String.ofList_toList]
        exact .aggregation a' (String.ofList t) s
  · rintro (rfl | h | h)
    · rfl
    · exact h.name_eq
    · exact h.name_eq.symm

theorem Clash.ne {e e' : Entity} (h : e.Clash e') : e ≠ e' := by
  cases h with
  | source a s => exact fun h => by cases h
  | aggregation a t s =>
    intro h
    have hlength := congrArg String.length (Entity.aggregation.inj h).1
    rw [String.length_append, String.length_append, show "_".length = 1 from rfl] at hlength
    omega

/-- Different entities have different names unless two of them clash. -/
theorem nodup_map_name_iff {entities : List Entity} (hdistinct : entities.Nodup) :
    (entities.map name).Nodup ↔ ∀ e ∈ entities, ∀ e' ∈ entities, ¬e.Clash e' := by
  constructor
  · intro h e he e' he' hclash
    exact hclash.ne (List.inj_on_of_nodup_map h he he' hclash.name_eq)
  · intro h
    refine List.Nodup.map_on (fun e he e' he' hname => ?_) hdistinct
    rcases name_eq_name_iff.mp hname with heq | hclash | hclash
    · exact heq
    · exact absurd hclash (h e he e' he')
    · exact absurd hclash (h e' he' e he)

end Entity

/-! ## After the last page -/

theorem map_name_entities (store : RowStore) :
    store.entities.map Entity.name = (store.entries.map fun entry => (entry.1.name, entry.2)).map Prod.fst := by
  rw [RowStore.entities, List.map_map, List.map_map]
  rfl

theorem serialize_perEntity_of_nodup {store : RowStore} (h : (store.entities.map Entity.name).Nodup) :
    serialize store .perEntity = .ok ⟨"export.zip", "application/zip",
      .archive (store.entries.map fun entry => memberOf (entry.1.name, entry.2))⟩ := by
  rw [map_name_entities] at h
  have harchive := archiveOf_of_nodup h
  rw [List.map_map] at harchive
  exact harchive

theorem serialize_perEntity_of_repeated {store : RowStore} (hdistinct : store.entities.Nodup)
    (h : ¬(store.entities.map Entity.name).Nodup) : ∃ e ∈ store.entities, ∃ e' ∈ store.entities, e.Clash e' ∧
      serialize store .perEntity = .error (.duplicateMember (e.name ++ ".csv")) := by
  rw [map_name_entities] at h
  obtain ⟨front, table, back, hsplit, hname, herror⟩ := archiveOf_of_repeated h
  obtain ⟨entries, rest, hentries, rfl, hrest⟩ := List.map_eq_append_iff.mp hsplit
  obtain ⟨entry, entries', rfl, rfl, -⟩ := List.map_eq_cons_iff.mp hrest
  obtain ⟨other, hother, hsame⟩ := List.mem_map.mp hname
  obtain ⟨earlier, hearlier, rfl⟩ := List.mem_map.mp hother
  have hsame : earlier.1.name = entry.1.name := hsame
  have hentities : store.entities = entries.map Prod.fst ++ entry.1 :: entries'.map Prod.fst := by
    rw [RowStore.entities, hentries, List.map_append, List.map_cons]
  have hmem : earlier.1 ∈ store.entities := by
    rw [hentities]
    exact List.mem_append_left _ (List.mem_map_of_mem hearlier)
  have hmem' : entry.1 ∈ store.entities := by
    rw [hentities]
    exact List.mem_append_right _ List.mem_cons_self
  rcases Entity.name_eq_name_iff.mp hsame with heq | hclash | hclash
  · rw [hentities] at hdistinct
    exact absurd heq ((List.nodup_append.mp hdistinct).2.2 _ (List.mem_map_of_mem hearlier) _ List.mem_cons_self)
  · exact ⟨earlier.1, hmem, entry.1, hmem', hclash, hsame ▸ herror⟩
  · exact ⟨entry.1, hmem', earlier.1, hmem, hclash, herror⟩

/-- A file for each entity is the only layout that can fail. -/
theorem exists_serialize_iff {store : RowStore} (hdistinct : store.entities.Nodup) (layout : Layout) :
    (∃ file, serialize store layout = .ok file) ↔
      (layout = .perEntity → ∀ e ∈ store.entities, ∀ e' ∈ store.entities, ¬e.Clash e') := by
  cases layout with
  | singleFile => exact iff_of_true ⟨_, rfl⟩ (by simp)
  | perAggregation => exact iff_of_true ⟨_, serialize_perAggregation store⟩ (by simp)
  | perEntity =>
    refine ⟨fun ⟨file, hfile⟩ _ => (Entity.nodup_map_name_iff hdistinct).mp ?_, fun h => ?_⟩
    · by_contra hnames
      obtain ⟨_, _, _, _, _, hrefused⟩ := serialize_perEntity_of_repeated hdistinct hnames
      rw [hrefused] at hfile
      cases hfile
    · exact ⟨_, serialize_perEntity_of_nodup ((Entity.nodup_map_name_iff hdistinct).mpr (h rfl))⟩

/-- **What has been fetched can be put into a file**, unless there is to be a file for each entity and two of them have
one name, for an id has an underscore in the wrong place: then a name that comes again is refused. Else the archive has
one member for each entity, in their order, with the rows of the entity. -/
theorem serialize_of_fetch {σ : Type} {env : Environment σ} {config : Config} {job : ExportJob} {tasks : List FetchTask}
    (hdistinct : (tasks.map FetchTask.entity).Nodup) {w : World σ} {store : RowStore}
    (hfetch : ((fetch config job tasks).run env w).1 = .ok store) :
    let members := store.entries.map fun entry => (⟨entry.1.name ++ ".csv", Csv.render entry.2⟩ : Member)
    store.entities = tasks.map FetchTask.entity ∧
      (∀ layout, (∃ file, serialize store layout = .ok file) ↔
        (layout = .perEntity → ∀ e ∈ store.entities, ∀ e' ∈ store.entities, ¬e.Clash e')) ∧
      (∀ file, serialize store .perEntity = .ok file →
        file = ⟨"export.zip", "application/zip", .archive members⟩ ∧ (members.map Member.name).Nodup) ∧
      (∀ cause, serialize store .perEntity = .error cause → ∃ e ∈ store.entities, ∃ e' ∈ store.entities,
        e.Clash e' ∧ cause = .duplicateMember (e.name ++ ".csv")) := by
  intro members
  have hentities := entities_of_fetch hdistinct hfetch
  have hnodup : store.entities.Nodup := hentities ▸ hdistinct
  refine ⟨hentities, exists_serialize_iff hnodup, fun file hfile => ?_, fun cause hcause => ?_⟩
  · have hnames := (Entity.nodup_map_name_iff hnodup).mpr ((exists_serialize_iff hnodup .perEntity).mp ⟨file, hfile⟩ rfl)
    rw [serialize_perEntity_of_nodup hnames] at hfile
    have hmembers : members.map Member.name = (store.entities.map Entity.name).map (· ++ ".csv") := by
      simp [members, RowStore.entities]
    refine ⟨(Except.ok.inj hfile).symm, ?_⟩
    rw [hmembers]
    exact hnames.map fun a b => (String.append_left_inj ".csv").mp
  · by_cases hnames : (store.entities.map Entity.name).Nodup
    · rw [serialize_perEntity_of_nodup hnames] at hcause
      cases hcause
    · obtain ⟨e, he, e', he', hclash, hrefused⟩ := serialize_perEntity_of_repeated hnodup hnames
      rw [hrefused] at hcause
      exact ⟨e, he, e', he', hclash, (Except.error.inj hcause).symm⟩

/-- `a_b` of `c` and `a` of `b_c`. -/
def sameName : List FetchTask := [⟨.aggregation "a_b" "c", ["n"]⟩, ⟨.aggregation "a" "b_c", ["n"]⟩]

/-- Both are fetched, and then there is no file to put them in. -/
theorem serialize_of_fetch_sameName :
    let w : World (Stream' Reply) := { server := Stream'.const twoRecordsReply }
    let store : RowStore := ⟨sameName.map fun task => (task.entity, [[.string "x"]])⟩
    ((fetch smallPages namesJob sameName).run Environment.inTurn w).1 = .ok store ∧
      serialize store .perEntity = .error (.duplicateMember "a_b_c.csv") := by
  intro w store
  have hfetch : ((fetch smallPages namesJob sameName).run Environment.inTurn w).1 = .ok store :=
    run_fetch_twoRecords namesJob (by decide)
  obtain ⟨-, hlayouts, -, hrefused⟩ := serialize_of_fetch (by decide) hfetch
  refine ⟨hfetch, ?_⟩
  cases hfile : serialize store .perEntity with
  | ok file =>
    exact absurd (.aggregation "a" "b" "c") ((hlayouts .perEntity).mp ⟨file, hfile⟩ rfl (.aggregation "a_b" "c") (by decide)
      (.aggregation "a" "b_c") (by decide))
  | error cause =>
    obtain ⟨e, he, -, -, -, rfl⟩ := hrefused cause hfile
    have hname : ∀ e ∈ store.entities, e.name = "a_b_c" := by decide
    rw [hname e he]
    rfl

end SeriesExport
