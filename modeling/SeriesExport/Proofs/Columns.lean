import Mathlib.Data.List.Induction
import SeriesExport.Proofs.Choices
import SeriesExport.Proofs.Records
import SeriesExport.Table.Projection

/-!
# The columns of a row

The members of a record are placed one by one, each at the first column of its key (`getElem?_place`). By induction on
the record from its end, this column has what the record has for the key, and every other column of the key stays null
(`getElem?_projectRecord`). So the rows are without gaps (`Fills`) just if no key is repeated in the projection
(`fills_iff_nodup`).

A job repeats a key if a name is asked for twice, or if one of its names is the key of another and no attribute of its
own (`Catalog.nodup_map_columnOf_iff`). For raw data all names are attributes, so only the former is possible. For an
aggregation the latter is an operator that is named like a key.
-/

namespace SeriesExport

/-! ## First columns -/

/-- The first column of a key is the one that no other column of the key comes before. -/
theorem idxOf?_eq_some_iff_of_getElem? {attributes : Projection} {i : ℕ} {key : String} (h : attributes[i]? = some key)
    (other : String) : attributes.idxOf? other = some i ↔ other = key ∧ key ∉ attributes.take i := by
  obtain ⟨hi, hkey⟩ := List.getElem?_eq_some_iff.mp h
  rw [List.idxOf?_eq_some_iff, List.mem_take_iff_getElem]
  constructor
  · rintro ⟨_, hother, hbefore⟩
    have hsame : other = key := hother.symm.trans hkey
    refine ⟨hsame, ?_⟩
    rintro ⟨j, hj, hj'⟩
    exact hbefore j (by omega) (hj'.trans hsame.symm)
  · rintro ⟨rfl, hbefore⟩
    refine ⟨hi, hkey, fun j hj hj' => hbefore ⟨j, ?_, hj'⟩⟩
    omega

/-- No key is repeated just if every column is the first one of its key. -/
theorem nodup_iff_not_mem_take {attributes : Projection} :
    attributes.Nodup ↔ ∀ i key, attributes[i]? = some key → key ∉ attributes.take i := by
  rw [List.nodup_iff_pairwise_ne, List.pairwise_iff_getElem]
  constructor
  · intro h i key hkey hmem
    obtain ⟨hi, rfl⟩ := List.getElem?_eq_some_iff.mp hkey
    obtain ⟨j, hj, hsame⟩ := List.mem_take_iff_getElem.mp hmem
    exact h j i (by omega) hi (by omega) hsame
  · intro h j i hj hi hlt hsame
    exact h i attributes[i] (List.getElem?_eq_getElem hi) (List.mem_take_iff_getElem.mpr ⟨j, by omega, hsame⟩)

/-! ## Rows -/

/-- What a record has for a column: the value of its member of this key, or null if it has no such member. The value is
written as a time just if times are written by ISO 8601 and the key is that of a time. -/
def columnValue (timeKeys : List String) (format : TimeFormat) (record : Record) (key : String) : Json :=
  match record.get? key with
  | none => .null
  | some value => if format = .iso8601 ∧ key ∈ timeKeys then isoTime value else value

theorem isoTime_eq_null_iff {value : Json} : isoTime value = .null ↔ value = .null := by
  cases value with
  | number n =>
    unfold isoTime
    simp only [reduceCtorEq, iff_false]
    cases hms : (n.toBinary64.mul (.ofNat 1000)).truncate? with
    | none => simp
    | some milliseconds =>
      cases htime : timestamp? milliseconds <;> simp [htime]
  | _ => simp [isoTime]

theorem columnValue_eq_null_iff {timeKeys : List String} {format : TimeFormat} {record : Record} {key : String} :
    columnValue timeKeys format record key = .null ↔ record.get? key = none ∨ record.get? key = some .null := by
  unfold columnValue
  cases record.get? key with
  | none => simp
  | some value =>
    dsimp only
    split
    · simpa using isoTime_eq_null_iff
    · simp

section

variable {attributes : Projection} {i : ℕ} {key : String}

@[simp] theorem length_place (attributes : Projection) (row : Row) (other : String) (value : Json) :
    (place attributes row other value).length = row.length := by
  unfold place
  split
  · exact List.length_set
  · rfl

/-- A member goes to the first column of its key. -/
theorem getElem?_place (h : attributes[i]? = some key) {row : Row} (hrow : row.length = attributes.length)
    (other : String) (value : Json) : (place attributes row other value)[i]? =
      if other = key ∧ key ∉ attributes.take i then some value else row[i]? := by
  have hi : i < row.length := by
    rw [hrow]
    exact (List.getElem?_eq_some_iff.mp h).1
  have hfirst := idxOf?_eq_some_iff_of_getElem? h other
  unfold place
  cases hidx : attributes.idxOf? other with
  | none =>
    rw [hidx] at hfirst
    rw [if_neg fun hboth => nomatch hfirst.mpr hboth]
  | some j =>
    rw [hidx, Option.some.injEq] at hfirst
    by_cases hj : j = i
    · subst hj
      rw [if_pos (hfirst.mp rfl)]
      exact List.getElem?_set_self hi
    · rw [if_neg fun hboth => hj (hfirst.mpr hboth)]
      exact List.getElem?_set_ne hj

end

section

variable {timeKeys : List String} {format : TimeFormat}

theorem columnValue_concat_self {record : Record} {name : String} (hnew : name ∉ record.map Prod.fst) (value : Json) :
    columnValue timeKeys format (record ++ [(name, value)]) name = cell timeKeys format name value := by
  have hnone : List.lookup name record = none := by
    rw [List.lookup_eq_none_iff]
    intro entry hentry
    have hne : name ≠ entry.1 := fun hsame => hnew (hsame ▸ List.mem_map_of_mem hentry)
    simpa using hne
  simp [columnValue, cell, Json.Members.get?, List.lookup_append, hnone]

theorem columnValue_concat_of_ne {name key : String} (hne : name ≠ key) (record : Record) (value : Json) :
    columnValue timeKeys format (record ++ [(name, value)]) key = columnValue timeKeys format record key := by
  simp [columnValue, Json.Members.get?, List.lookup_append, List.lookup_cons, beq_false_of_ne hne.symm]

theorem projectRecord_concat (attributes : Projection) (record : Record) (name : String) (value : Json) :
    projectRecord attributes timeKeys format (record ++ [(name, value)]) =
      place attributes (projectRecord attributes timeKeys format record) name (cell timeKeys format name value) := by
  simp [projectRecord]

theorem length_projectRecord (attributes : Projection) (record : Record) :
    (projectRecord attributes timeKeys format record).length = attributes.length := by
  induction record using List.reverseRecOn with
  | nil => exact List.length_replicate
  | append_singleton record member ih => rw [projectRecord_concat, length_place, ih]

/-- In the first column of a key stands what the record has for it, and null in any other. -/
theorem getElem?_projectRecord {attributes : Projection} {i : ℕ} {key : String} (h : attributes[i]? = some key)
    {record : Record} (hrecord : (record.map Prod.fst).Nodup) :
    (projectRecord attributes timeKeys format record)[i]? =
      some (if key ∈ attributes.take i then .null else columnValue timeKeys format record key) := by
  induction record using List.reverseRecOn with
  | nil =>
    have hi : i < attributes.length := (List.getElem?_eq_some_iff.mp h).1
    have hnull : columnValue timeKeys format [] key = .null := rfl
    rw [hnull, ite_self]
    exact List.getElem?_replicate_of_lt hi
  | append_singleton record member ih =>
    obtain ⟨name, value⟩ := member
    rw [List.map_append, List.map_singleton, List.nodup_append] at hrecord
    obtain ⟨hrecord, -, hnew⟩ := hrecord
    rw [projectRecord_concat, getElem?_place h (length_projectRecord attributes record), ih hrecord]
    by_cases hbefore : key ∈ attributes.take i
    · rw [if_neg fun hboth => hboth.2 hbefore, if_pos hbefore, if_pos hbefore]
    rw [if_neg hbefore, if_neg hbefore]
    by_cases hname : name = key
    · subst hname
      have hnew : name ∉ record.map Prod.fst := fun hmem => hnew name hmem name List.mem_cons_self rfl
      rw [if_pos ⟨rfl, hbefore⟩, columnValue_concat_self hnew]
    · rw [if_neg fun hboth => hname hboth.1, columnValue_concat_of_ne hname]

/-! ## Rows without gaps -/

/-- Every column of every row has what the record has for its key. -/
def Fills (attributes : Projection) (timeKeys : List String) (format : TimeFormat) : Prop :=
  ∀ record : Record, (record.map Prod.fst).Nodup →
    projectRecord attributes timeKeys format record = attributes.map (columnValue timeKeys format record)

/-- A column stays empty just if its key is the key of a column before it. -/
theorem fills_iff_nodup {attributes : Projection} : Fills attributes timeKeys format ↔ attributes.Nodup := by
  rw [nodup_iff_not_mem_take]
  constructor
  · intro hfills i key h hbefore
    have hrow := hfills [(key, .bool true)] (List.nodup_singleton key)
    have hcell : (projectRecord attributes timeKeys format [(key, .bool true)])[i]? = some _ :=
      getElem?_projectRecord h (List.nodup_singleton key)
    have hvalue : columnValue timeKeys format [(key, .bool true)] key = .bool true := by
      simp [columnValue, Json.Members.get?, isoTime]
    rw [if_pos hbefore, hrow, List.getElem?_map, h, Option.map_some, hvalue] at hcell
    cases hcell
  · intro hfirst record hrecord
    refine List.ext_getElem? fun i => ?_
    rw [List.getElem?_map]
    cases h : attributes[i]? with
    | none =>
      have hlength : attributes.length ≤ i := List.getElem?_eq_none_iff.mp h
      exact List.getElem?_eq_none_iff.mpr (by rwa [length_projectRecord])
    | some key =>
      rw [getElem?_projectRecord h hrecord, if_neg (hfirst i key h)]
      rfl

end

/-! ## Columns of a job -/

namespace Catalog

theorem key?_injective {c : Catalog} {name name' key : String} (h : c.key? name = some key)
    (h' : c.key? name' = some key) : name = name' :=
  congrArg Prod.fst (List.inj_on_of_nodup_map c.keys_nodup (mem_entries_of_key? h) (mem_entries_of_key? h') rfl)

theorem key?_of_mem {c : Catalog} {entry : String × String} (h : entry ∈ c.entries) :
    c.key? entry.1 = some entry.2 := by
  have hname : entry.1 ∈ c.names := List.mem_map_of_mem h
  cases hkey : c.key? entry.1 with
  | none => exact absurd hname (key?_eq_none_iff.mp hkey)
  | some key =>
    have hsame := List.inj_on_of_nodup_map c.names_nodup (mem_entries_of_key? hkey) h rfl
    exact congrArg (fun entry : String × String => some entry.2) hsame

/-- Of two names with one column that are not the same, one is the key of the other and no name of the catalog. -/
theorem eq_or_mem_entries_of_columnOf_eq {c : Catalog} {name name' : String} (h : c.columnOf name = c.columnOf name') :
    name = name' ∨ ((name, name') ∈ c.entries ∧ name' ∉ c.names) ∨ ((name', name) ∈ c.entries ∧ name ∉ c.names) := by
  cases hkey : c.key? name with
  | none =>
    have hname : name ∉ c.names := key?_eq_none_iff.mp hkey
    rw [columnOf_of_not_mem hname] at h
    cases hkey' : c.key? name' with
    | none =>
      rw [columnOf_of_not_mem (key?_eq_none_iff.mp hkey')] at h
      exact .inl h
    | some key' =>
      rw [columnOf_of_key? hkey'] at h
      exact .inr (.inr ⟨h ▸ mem_entries_of_key? hkey', hname⟩)
  | some key =>
    rw [columnOf_of_key? hkey] at h
    cases hkey' : c.key? name' with
    | none =>
      have hname' : name' ∉ c.names := key?_eq_none_iff.mp hkey'
      rw [columnOf_of_not_mem hname'] at h
      exact .inr (.inl ⟨h ▸ mem_entries_of_key? hkey, hname'⟩)
    | some key' =>
      rw [columnOf_of_key? hkey'] at h
      subst h
      exact .inl (key?_injective hkey hkey')

/-- The columns of names are different just if the names are, and no name is the key of another one. -/
theorem nodup_map_columnOf_iff {c : Catalog} {names : List String} : (names.map c.columnOf).Nodup ↔
    names.Nodup ∧ ∀ entry ∈ c.entries, entry.1 ∈ names → entry.2 ∈ names → entry.2 ∈ c.names := by
  constructor
  · intro h
    refine ⟨List.Nodup.of_map _ h, fun entry hentry hname hkey => ?_⟩
    by_contra hnot
    have hcolumn : c.columnOf entry.1 = c.columnOf entry.2 :=
      (columnOf_of_key? (key?_of_mem hentry)).trans (columnOf_of_not_mem hnot).symm
    have hsame : entry.1 = entry.2 := List.inj_on_of_nodup_map h hname hkey hcolumn
    exact hnot (hsame ▸ List.mem_map_of_mem hentry)
  · rintro ⟨hnames, hclash⟩
    refine (List.nodup_map_iff_inj_on hnames).mpr fun name hname name' hname' hcolumn => ?_
    rcases eq_or_mem_entries_of_columnOf_eq hcolumn with hsame | ⟨hentry, hnot⟩ | ⟨hentry, hnot⟩
    · exact hsame
    · exact absurd (hclash _ hentry hname hname') hnot
    · exact absurd (hclash _ hentry hname' hname) hnot

theorem project_eq_ok_iff {c : Catalog} {names : List String} {projection : Projection} :
    c.project names = .ok projection ↔ (∀ name ∈ names, name ∈ c.names) ∧ projection = names.map c.columnOf := by
  unfold project
  refine Result.mapM_eq_ok_iff fun name key => ?_
  cases hkey : c.key? name with
  | none =>
    have hname : name ∉ c.names := key?_eq_none_iff.mp hkey
    simp [hname]
  | some key' =>
    have hname : name ∈ c.names := mem_names_of_key? hkey
    simp [hname, columnOf_of_key? hkey, eq_comm]

end Catalog

namespace ExportJob

/-- The columns of raw data: the keys of the names that are asked for. -/
theorem columns_of_ofData {s : DataSelection} {job : ExportJob} (h : ofData s = .ok job) :
    (∀ name ∈ attributeNames s.attributes, name ∈ Catalog.data.names) ∧
    ∀ task ∈ job.tasks, task.attributes = (attributeNames s.attributes).map Catalog.data.columnOf := by
  unfold ofData at h
  split at h
  · cases h
  split at h
  · cases h
  obtain ⟨projection, hprojection, h⟩ := Result.bind_eq_ok.mp h
  obtain ⟨range, -, h⟩ := Result.bind_eq_ok.mp h
  obtain rfl := Except.ok.inj h
  obtain ⟨hnames, rfl⟩ := Catalog.project_eq_ok_iff.mp hprojection
  refine ⟨hnames, fun task htask => ?_⟩
  obtain ⟨source, -, rfl⟩ := List.mem_map.mp htask
  rfl

/-- The columns of an aggregation: those of a choice of it. -/
theorem columns_of_ofAggregations {s : AggregationSelection} {groups : AggregationGroups} {job : ExportJob}
    (h : ofAggregations s groups = .ok job) {task : FetchTask} (htask : task ∈ job.tasks) : ∃ c ∈ s.choices,
      task.entity.aggregation? = some c.aggregation ∧ task.attributes = attributeColumns c.attributes := by
  rw [tasks_of_ofAggregations h] at htask
  obtain ⟨g, -, htask⟩ := List.mem_flatMap.mp htask
  obtain ⟨c, hc, htask⟩ := List.mem_flatMap.mp htask
  obtain ⟨source, -, rfl⟩ := List.mem_map.mp htask
  rw [Option.mem_toList] at hc
  have hid : c.aggregation = g.id := by simpa using List.find?_some hc
  exact ⟨c, List.mem_of_find?_eq_some hc, congrArg some hid.symm, rfl⟩

/-- No attribute of an aggregation is named like the key of one. -/
theorem not_mem_names_of_mem_entries : ∀ entry ∈ Catalog.aggregation.entries,
    entry.2 ∉ Catalog.aggregation.names := by decide

end ExportJob

/-- **The columns of a row.** A row has a cell for each column of the projection. In the first column of a key stands
what the record has for it, and that is null just if the record has no such member or its value is null; in any other
column of the key stands null. So no row has a gap just if no key is repeated. For raw data this means that no
attribute is asked for twice, and for an aggregation also that no operator is asked for together with the attribute
whose key it is named like. The records of a page have no name twice. -/
theorem projectRecord_columns (attributes : Projection) (timeKeys : List String) (format : TimeFormat) :
    (∀ record : Record, (record.map Prod.fst).Nodup →
      (projectRecord attributes timeKeys format record).length = attributes.length ∧
      ∀ i key, attributes[i]? = some key →
        (projectRecord attributes timeKeys format record)[i]? =
          some (if key ∈ attributes.take i then .null else columnValue timeKeys format record key) ∧
        (columnValue timeKeys format record key = .null ↔
          record.get? key = none ∨ record.get? key = some .null)) ∧
    (Fills attributes timeKeys format ↔ attributes.Nodup) ∧
    (∀ s job, ExportJob.ofData s = .ok job → ∀ task ∈ job.tasks, task.attributes = attributes →
      (Fills attributes timeKeys format ↔ (attributeNames s.attributes).Nodup)) ∧
    (∀ s groups job, ExportJob.ofAggregations s groups = .ok job → ∀ task ∈ job.tasks, task.attributes = attributes →
      ∃ c ∈ s.choices, task.entity.aggregation? = some c.aggregation ∧
        (Fills attributes timeKeys format ↔ (attributeNames c.attributes).Nodup ∧
          ∀ entry ∈ Catalog.aggregation.entries,
            ¬(entry.1 ∈ attributeNames c.attributes ∧ entry.2 ∈ attributeNames c.attributes))) ∧
    ∀ text page, Page.decode text = .ok page → ∀ record ∈ page.records, (record.map Prod.fst).Nodup := by
  refine ⟨?_, fills_iff_nodup, ?_, ?_, ?_⟩
  · intro record hrecord
    refine ⟨length_projectRecord attributes record, fun i key h => ?_⟩
    exact ⟨getElem?_projectRecord h hrecord, columnValue_eq_null_iff⟩
  · intro s job hjob task htask hattributes
    obtain ⟨hnames, hcolumns⟩ := ExportJob.columns_of_ofData hjob
    rw [fills_iff_nodup, ← hattributes, hcolumns task htask, Catalog.nodup_map_columnOf_iff]
    constructor
    · rintro ⟨hnodup, -⟩
      exact hnodup
    · intro hnodup
      exact ⟨hnodup, fun entry _ _ hkey => hnames entry.2 hkey⟩
  · intro s groups job hjob task htask hattributes
    obtain ⟨c, hc, haggregation, hcolumns⟩ := ExportJob.columns_of_ofAggregations hjob htask
    refine ⟨c, hc, haggregation, ?_⟩
    rw [fills_iff_nodup, ← hattributes, hcolumns, attributeColumns, Catalog.nodup_map_columnOf_iff]
    refine and_congr_right fun _ => forall₂_congr fun entry hentry => ?_
    have hnot := ExportJob.not_mem_names_of_mem_entries entry hentry
    constructor
    · rintro hclash ⟨hname, hkey⟩
      exact hnot (hclash hname hkey)
    · intro hclash hname hkey
      exact absurd ⟨hname, hkey⟩ hclash
  · intro text page hdecode record hrecord
    exact (Page.ordered_of_decode hdecode record hrecord).nodup

/-! ### Names that are asked for twice -/

/-- A record with a name and a time. -/
def timedRecord : Record := [("n", .string "x"), ("t", .number (.integer 1609459200))]

theorem isoTime_newYear : isoTime (.number (.integer 1609459200)) = .string "2021-01-01T00:00:00.000Z" := by
  have hmilliseconds : ((Json.Number.integer 1609459200).toBinary64.mul (.ofNat 1000)).truncate? =
      some 1609459200000 := by decide +kernel
  have htext : timestamp? 1609459200000 = some "2021-01-01T00:00:00.000Z" := by decide +kernel
  simp [isoTime, hmilliseconds, htext]

/-- A page with a record that has a name and nothing else. -/
def namedPage : String := "\x7b\"total\":1,\"data\":\x7b\"e\":[\x7b\"n\":\"x\"\x7d]\x7d\x7d"

def namesTwice : DataSelection where
  attributes := "name, name, time"
  sources := ["A"]

/-- An operator that is named like the key of the names. -/
def operatorLikeName : AggregationGroup := ⟨"m", ["n"], "1h", .infinite, ["A"]⟩

def namesLikeOperator : AggregationSelection where
  choices := [⟨"m", "name,n"⟩]

/-- The second of two columns for the name is empty, whether it is asked for by its name or by the operator; the time is
written as it is asked for. -/
theorem projectRecord_columns_namesTwice :
    (let row := projectRecord ["n", "n", "t"] ["t"] .iso8601 timedRecord
     row[0]? = some (.string "x") ∧ row[1]? = some .null ∧ row[2]? = some (.string "2021-01-01T00:00:00.000Z")) ∧
    (projectRecord ["n", "n", "t"] ["t"] .epochSeconds timedRecord)[2]? = some (.number (.integer 1609459200)) ∧
    (∃ job, ExportJob.ofData namesTwice = .ok job ∧ job.tasks = [⟨.source "A", ["n", "n", "t"]⟩] ∧
      ¬Fills ["n", "n", "t"] ["t"] .iso8601 ∧ ¬(attributeNames namesTwice.attributes).Nodup) ∧
    (∃ job, ExportJob.ofAggregations namesLikeOperator [operatorLikeName] = .ok job ∧
      job.tasks = [⟨.aggregation "m" "A", ["n", "n"]⟩] ∧ ¬Fills ["n", "n"] ["ts", "te"] .iso8601 ∧
      (attributeNames "name,n").Nodup ∧ ∃ entry ∈ Catalog.aggregation.entries,
        entry.1 ∈ attributeNames "name,n" ∧ entry.2 ∈ attributeNames "name,n") ∧
    ∃ page, Page.decode namedPage = .ok page ∧ page.records.length = 1 ∧
      ∀ record ∈ page.records, (record.map Prod.fst).Nodup := by
  obtain ⟨hcells, hfills, hdata, -, hpage⟩ := projectRecord_columns ["n", "n", "t"] ["t"] .iso8601
  obtain ⟨hplain, -⟩ := projectRecord_columns ["n", "n", "t"] ["t"] .epochSeconds
  obtain ⟨-, hfills', -, haggregations, -⟩ := projectRecord_columns ["n", "n"] ["ts", "te"] .iso8601
  obtain ⟨-, hcell⟩ := hcells timedRecord (by decide)
  refine ⟨⟨(hcell 0 "n" rfl).1, (hcell 1 "n" rfl).1, ?_⟩, ((hplain timedRecord (by decide)).2 2 "t" rfl).1, ?_, ?_, ?_⟩
  · rw [← isoTime_newYear]
    exact (hcell 2 "t" rfl).1
  · have hjob : ExportJob.ofData namesTwice = .ok ⟨.raw ["A"] ["n", "n", "t"], {}, .singleFile, .epochSeconds⟩ := by
      decide +kernel
    have hgap : ¬Fills ["n", "n", "t"] ["t"] .iso8601 := by
      rw [hfills]
      decide
    refine ⟨_, hjob, rfl, hgap, fun hnodup => hgap ?_⟩
    exact (hdata _ _ hjob ⟨.source "A", ["n", "n", "t"]⟩ (List.mem_singleton_self _) rfl).mpr hnodup
  · have hjob : ExportJob.ofAggregations namesLikeOperator [operatorLikeName] =
        .ok ⟨.aggregations [⟨"m", ["A"], ["n", "n"]⟩], {}, .singleFile, .epochSeconds⟩ := by decide +kernel
    have hgap : ¬Fills ["n", "n"] ["ts", "te"] .iso8601 := by
      rw [hfills']
      decide
    obtain ⟨c, hc, -, hiff⟩ := haggregations _ _ _ hjob ⟨.aggregation "m" "A", ["n", "n"]⟩
      (List.mem_singleton_self _) rfl
    obtain rfl := List.mem_singleton.mp hc
    have hnodup : (attributeNames "name,n").Nodup := by decide +kernel
    refine ⟨_, hjob, rfl, hgap, hnodup, ?_⟩
    by_contra hnone
    push Not at hnone
    exact hgap (hiff.mpr ⟨hnodup, fun entry hentry hboth => hnone entry hentry hboth.1 hboth.2⟩)
  · have hread : (Page.decode namedPage).toOption.map (·.records.length) = some 1 := by decide +kernel
    cases hdecode : Page.decode namedPage with
    | error fault =>
      rw [hdecode] at hread
      cases hread
    | ok page =>
      rw [hdecode] at hread
      exact ⟨page, rfl, Option.some.inj hread, hpage namedPage page hdecode⟩

end SeriesExport
