import Mathlib.Data.List.Induction
import Mathlib.Data.List.Nodup
import SeriesExport.Proofs.Columns

/-!
# Catalogs from entries

A catalog is built entry by entry. By induction on the entries from their end it has just the entries that it is built
from, and it is built if no name and no key is there twice (`Catalog.ofList_eq_ok_iff`); otherwise the first entry that
repeats one is reported (`Catalog.ofList_eq_error_iff`). So an entry is found by its name and by its key alike, and
names that are asked for correspond to the keys in their columns one to one (`Catalog.project_eq_ok_iff_forall₂`,
`Catalog.nodup_iff_of_project`).
-/

namespace SeriesExport.Catalog

/-- No name and no key is there twice. -/
def Distinct (entries : List (String × String)) : Prop :=
  (entries.map Prod.fst).Nodup ∧ (entries.map Prod.snd).Nodup

/-- The entry has a name or a key that is there already. -/
def Repeats (entries : List (String × String)) (entry : String × String) : Prop :=
  entry.1 ∈ entries.map Prod.fst ∨ entry.2 ∈ entries.map Prod.snd

instance : DecidablePred Distinct := fun _ => inferInstanceAs (Decidable (_ ∧ _))

instance (entries : List (String × String)) : DecidablePred (Repeats entries) :=
  fun _ => inferInstanceAs (Decidable (_ ∨ _))

theorem distinct_concat_iff {entries : List (String × String)} {entry : String × String} :
    Distinct (entries ++ [entry]) ↔ Distinct entries ∧ ¬Repeats entries entry := by
  simp only [Distinct, Repeats, List.map_append, List.map_cons, List.map_nil, List.nodup_append, List.nodup_singleton,
    List.mem_singleton, ne_eq]
  grind

/-! ## Building -/

theorem eq_of_entries {c c' : Catalog} (h : c.entries = c'.entries) : c = c' := by
  cases c
  cases c'
  cases h
  rfl

theorem add_eq_ok_iff {c c' : Catalog} {name key : String} :
    c.add name key = .ok c' ↔ ¬Repeats c.entries (name, key) ∧ c'.entries = c.entries ++ [(name, key)] := by
  rw [add]
  split
  · next hnew =>
    constructor
    · intro h
      exact ⟨not_or.mpr hnew, congrArg entries (Except.ok.inj h).symm⟩
    · rintro ⟨-, hentries⟩
      exact congrArg Except.ok (eq_of_entries hentries.symm)
  · next hold => exact ⟨nofun, fun ⟨hnew, _⟩ => absurd (not_or.mp hnew) hold⟩

theorem add_eq_error_iff {c : Catalog} {name key : String} {cause : ExportError} :
    c.add name key = .error cause ↔ Repeats c.entries (name, key) ∧ cause = .duplicateEntry name key := by
  rw [add]
  split
  · next hnew => exact ⟨nofun, fun ⟨hold, _⟩ => absurd hold (not_or.mpr hnew)⟩
  · next hold =>
    have hrepeats : Repeats c.entries (name, key) := not_not.mp fun hnew => hold (not_or.mp hnew)
    exact ⟨fun h => ⟨hrepeats, (Except.error.inj h).symm⟩, fun ⟨_, h⟩ => h ▸ rfl⟩

/-- The catalog of the entries exists if they are distinct, and it has them in their order. -/
theorem ofList_eq_ok_iff {entries : List (String × String)} {c : Catalog} :
    ofList entries = .ok c ↔ Distinct entries ∧ c.entries = entries := by
  induction entries using List.reverseRecOn generalizing c with
  | nil =>
    constructor
    · intro h
      exact ⟨⟨List.nodup_nil, List.nodup_nil⟩, congrArg Catalog.entries (Except.ok.inj h).symm⟩
    · rintro ⟨-, hentries⟩
      exact congrArg Except.ok (eq_of_entries hentries.symm)
  | append_singleton entries entry ih =>
    rw [ofList, List.foldlM_append, Result.bind_eq_ok, distinct_concat_iff]
    simp only [List.foldlM_cons, List.foldlM_nil, bind_pure, add_eq_ok_iff]
    constructor
    · rintro ⟨before, hbefore, hnew, hentries⟩
      obtain ⟨hdistinct, rfl⟩ := ih.mp hbefore
      exact ⟨⟨hdistinct, hnew⟩, hentries⟩
    · rintro ⟨⟨hdistinct, hnew⟩, hentries⟩
      have hbefore : ofList entries = .ok ⟨entries, hdistinct.1, hdistinct.2⟩ := ih.mpr ⟨hdistinct, rfl⟩
      exact ⟨_, hbefore, hnew, hentries⟩

/-- Otherwise the first entry is refused that repeats a name or a key. -/
theorem ofList_eq_error_iff {entries : List (String × String)} {cause : ExportError} :
    ofList entries = .error cause ↔ ∃ front entry back, entries = front ++ entry :: back ∧ Distinct front ∧
      Repeats front entry ∧ cause = .duplicateEntry entry.1 entry.2 := by
  rw [ofList, Result.foldlM_eq_error_iff]
  simp only [add_eq_error_iff]
  constructor
  · rintro ⟨front, entry, back, c, hsplit, hfront, hrepeats, hcause⟩
    obtain ⟨hdistinct, rfl⟩ := ofList_eq_ok_iff.mp hfront
    exact ⟨_, entry, back, hsplit, hdistinct, hrepeats, hcause⟩
  · rintro ⟨front, entry, back, hsplit, hdistinct, hrepeats, hcause⟩
    have hfront : ofList front = .ok ⟨front, hdistinct.1, hdistinct.2⟩ := ofList_eq_ok_iff.mpr ⟨hdistinct, rfl⟩
    exact ⟨front, entry, back, _, hsplit, hfront, hrepeats, hcause⟩

/-! ## Asking for names -/

/-- The keys are those of the names, one by one. -/
theorem project_eq_ok_iff_forall₂ {c : Catalog} {names : List String} {projection : Projection} :
    c.project names = .ok projection ↔ List.Forall₂ (fun name key => (name, key) ∈ c.entries) names projection := by
  rw [project_eq_ok_iff]
  constructor
  · rintro ⟨hnames, rfl⟩
    rw [List.forall₂_map_right_iff, List.forall₂_same]
    intro name hname
    obtain ⟨key, hkey⟩ := Option.ne_none_iff_exists'.mp fun h => key?_eq_none_iff.mp h (hnames name hname)
    rw [columnOf_of_key? hkey]
    exact mem_entries_of_key? hkey
  · intro h
    induction h with
    | nil => exact ⟨nofun, rfl⟩
    | cons hentry _ ih =>
      obtain ⟨hnames, rfl⟩ := ih
      rw [List.map_cons, columnOf_of_key? (key?_of_mem hentry)]
      exact ⟨List.forall_mem_cons.mpr ⟨List.mem_map_of_mem hentry, hnames⟩, rfl⟩

theorem project_eq_error_iff {c : Catalog} {names : List String} {cause : ExportError} :
    c.project names = .error cause ↔ ∃ front name back, names = front ++ name :: back ∧
      (∀ known ∈ front, known ∈ c.names) ∧ name ∉ c.names ∧ cause = .invalidAttribute name := by
  have hfirst : c.project names = .error cause ↔
      ∃ name, c.unknown? names = some name ∧ cause = .invalidAttribute name := by
    rw [project_eq]
    cases c.unknown? names <;> simp [eq_comm]
  simp only [hfirst, unknown?, List.find?_eq_some_iff_append]
  constructor
  · rintro ⟨name, ⟨hname, front, back, hsplit, hfront⟩, hcause⟩
    exact ⟨front, name, back, hsplit, by simpa using hfront, by simpa using hname, hcause⟩
  · rintro ⟨front, name, back, hsplit, hfront, hname, hcause⟩
    exact ⟨name, ⟨by simpa using hname, front, back, hsplit, by simpa using hfront⟩, hcause⟩

/-- No name is asked for twice just if no column is there twice. -/
theorem nodup_iff_of_project {c : Catalog} {names : List String} {projection : Projection}
    (h : c.project names = .ok projection) : names.Nodup ↔ projection.Nodup := by
  refine List.rel_nodup ⟨?_, ?_⟩ (project_eq_ok_iff_forall₂.mp h)
  · intro name key name' hentry hentry'
    exact key?_injective (key?_of_mem hentry) (key?_of_mem hentry')
  · intro name key key' hentry hentry'
    exact Option.some.inj ((key?_of_mem hentry).symm.trans (key?_of_mem hentry'))

theorem project_names (c : Catalog) : c.project c.names = .ok c.keys := by
  rw [project_eq_ok_iff_forall₂, names, keys, List.forall₂_map_left_iff, List.forall₂_map_right_iff, List.forall₂_same]
  exact fun _ hentry => hentry

/-! ## What a catalog is -/

/-- A catalog can be built just of entries that repeat no name and no key, and the first that does is reported. Names
that are asked for become their keys, each in its place, or are refused for the first that no entry has. -/
theorem ofList_exact (entries : List (String × String)) :
    ((∃ c, ofList entries = .ok c) ↔ Distinct entries) ∧
    (∀ cause, ofList entries = .error cause ↔ ∃ front entry back, entries = front ++ entry :: back ∧ Distinct front ∧
      Repeats front entry ∧ cause = .duplicateEntry entry.1 entry.2) ∧
    ∀ c, ofList entries = .ok c → c.names = entries.map Prod.fst ∧ c.project c.names = .ok (entries.map Prod.snd) ∧
      ∀ names, ((∃ projection, c.project names = .ok projection) ↔ ∀ name ∈ names, name ∈ entries.map Prod.fst) ∧
        (∀ projection, c.project names = .ok projection →
          List.Forall₂ (fun name key => (name, key) ∈ entries) names projection ∧ (names.Nodup → projection.Nodup)) ∧
        ∀ cause, c.project names = .error cause ↔ ∃ front name back, names = front ++ name :: back ∧
          (∀ known ∈ front, known ∈ entries.map Prod.fst) ∧ name ∉ entries.map Prod.fst ∧
          cause = .invalidAttribute name := by
  refine ⟨⟨?_, ?_⟩, fun cause => ofList_eq_error_iff, fun c hc => ?_⟩
  · rintro ⟨c, hc⟩
    exact (ofList_eq_ok_iff.mp hc).1
  · intro hdistinct
    exact ⟨⟨entries, hdistinct.1, hdistinct.2⟩, ofList_eq_ok_iff.mpr ⟨hdistinct, rfl⟩⟩
  · obtain ⟨-, rfl⟩ := ofList_eq_ok_iff.mp hc
    refine ⟨rfl, project_names c, fun names => ⟨⟨?_, ?_⟩, ?_, fun cause => project_eq_error_iff⟩⟩
    · rintro ⟨projection, hprojection⟩
      exact (project_eq_ok_iff.mp hprojection).1
    · intro hnames
      exact ⟨_, project_eq_ok_iff.mpr ⟨hnames, rfl⟩⟩
    · intro projection hprojection
      exact ⟨project_eq_ok_iff_forall₂.mp hprojection, (nodup_iff_of_project hprojection).mp⟩

/-- Two entries that are distinct, and two with one key. -/
theorem ofList_exact_for_two :
    (∃ c, ofList [("a", "x"), ("b", "y")] = .ok c ∧ c.project c.names = .ok ["x", "y"] ∧
      c.project ["b", "z"] = .error (.invalidAttribute "z")) ∧
      ofList [("a", "x"), ("b", "x")] = .error (.duplicateEntry "b" "x") := by
  refine ⟨?_, ((ofList_exact _).2.1 _).mpr ⟨[("a", "x")], ("b", "x"), [], rfl, by decide, by decide, rfl⟩⟩
  obtain ⟨c, hc⟩ := (ofList_exact [("a", "x"), ("b", "y")]).1.mpr (by decide)
  obtain ⟨-, hall, hask⟩ := (ofList_exact _).2.2 c hc
  exact ⟨c, hc, hall, ((hask ["b", "z"]).2.2 _).mpr ⟨["b"], "z", [], rfl, by decide, by decide, rfl⟩⟩

end SeriesExport.Catalog
