import Mathlib.Data.List.Induction
import Mathlib.Data.List.Nodup
import SeriesExport.Table.RowStore

/-!
# Commits in a row

A store after some commits (`RowStore.commitAll`) has the entities in the order in which they were first committed
(`entities_commitAll`), each with the rows of its last commit (`get?_commitAll`). Commits of entities that are all new
stay as they are (`entries_commitAll_of_nodup`). A store whose entities are all different is what its view says
(`entries_eq_map`), so two of them are equal if they have the same entities in the same order with the same rows
(`eq_of_get?`).
-/

namespace SeriesExport

/-! ## First occurrences -/

section

variable {α : Type} [DecidableEq α]

theorem eraseDups_concat (l : List α) (a : α) :
    (l ++ [a]).eraseDups = if a ∈ l then l.eraseDups else l.eraseDups ++ [a] := by
  rw [List.eraseDups_append]
  split
  · next h => simp [List.removeAll, h]
  · next h => simp [List.removeAll, h, List.eraseDups_cons]

theorem nodup_eraseDups (l : List α) : l.eraseDups.Nodup := by
  induction l using List.reverseRecOn with
  | nil => exact List.nodup_nil
  | append_singleton l a ih =>
    rw [eraseDups_concat]
    split
    · exact ih
    · next h => exact Catalog.nodup_concat ih (mt List.mem_eraseDups.mp h)

theorem eraseDups_of_nodup {l : List α} (h : l.Nodup) : l.eraseDups = l := by
  induction l using List.reverseRecOn with
  | nil => rfl
  | append_singleton l a ih =>
    obtain ⟨hl, -, hdisjoint⟩ := List.nodup_append.mp h
    have hnew : a ∉ l := fun hmem => hdisjoint a hmem a (List.mem_singleton_self a) rfl
    rw [eraseDups_concat, if_neg hnew, ih hl]

/-- Under another name, what has come again comes again. -/
theorem eraseDups_map_eraseDups {β : Type} [DecidableEq β] (f : α → β) (l : List α) :
    (l.eraseDups.map f).eraseDups = (l.map f).eraseDups := by
  induction l using List.reverseRecOn with
  | nil => rfl
  | append_singleton l a ih =>
    rw [eraseDups_concat, List.map_append, List.map_singleton, eraseDups_concat]
    split
    · next hmem => rw [ih, if_pos (List.mem_map_of_mem hmem)]
    · have hsame : f a ∈ l.eraseDups.map f ↔ f a ∈ l.map f := by simp only [List.mem_map, List.mem_eraseDups]
      rw [List.map_append, List.map_singleton, eraseDups_concat, ih]
      simp only [hsame]

end

namespace RowStore

/-! ## One commit -/

theorem map_fst_commitTo (entity : Entity) (rows : List Row) : ∀ entries : List (Entity × List Row),
    (commitTo entity rows entries).map Prod.fst =
      if entity ∈ entries.map Prod.fst then entries.map Prod.fst else entries.map Prod.fst ++ [entity]
  | [] => rfl
  | (other, old) :: rest => by
    rw [commitTo]
    by_cases h : other = entity
    · subst h
      simp
    · have hmem : entity ∈ other :: rest.map Prod.fst ↔ entity ∈ rest.map Prod.fst := by
        rw [List.mem_cons, or_iff_right (Ne.symm h)]
      rw [if_neg h, List.map_cons, List.map_cons, map_fst_commitTo entity rows rest]
      simp only [hmem]
      split <;> rfl

/-- A commit adds its entity, unless the store has it already. -/
theorem entities_commit (s : RowStore) (entity : Entity) (rows : List Row) :
    (s.commit entity rows).entities = if entity ∈ s.entities then s.entities else s.entities ++ [entity] :=
  map_fst_commitTo entity rows s.entries

/-! ## Commits in a row -/

/-- The store after these commits, the first one first. -/
def commitAll (s : RowStore) (commits : List (Entity × List Row)) : RowStore :=
  commits.foldl (fun s commit => s.commit commit.1 commit.2) s

theorem commitAll_concat (s : RowStore) (commits : List (Entity × List Row)) (commit : Entity × List Row) :
    s.commitAll (commits ++ [commit]) = (s.commitAll commits).commit commit.1 commit.2 :=
  List.foldl_append

/-- The entities stand in the order in which they were first committed. -/
theorem entities_commitAll (commits : List (Entity × List Row)) :
    (commitAll {} commits).entities = (commits.map Prod.fst).eraseDups := by
  induction commits using List.reverseRecOn with
  | nil => rfl
  | append_singleton commits commit ih =>
    rw [commitAll_concat, entities_commit, ih, List.map_append, List.map_singleton, eraseDups_concat]
    simp only [List.mem_eraseDups]

/-- The rows of an entity are those of its last commit. -/
theorem get?_commitAll (commits : List (Entity × List Row)) (entity : Entity) :
    (commitAll {} commits).get? entity = commits.reverse.lookup entity := by
  induction commits using List.reverseRecOn with
  | nil => rfl
  | append_singleton commits commit ih =>
    obtain ⟨other, rows⟩ := commit
    rw [commitAll_concat, List.reverse_concat, List.lookup_cons]
    by_cases h : entity = other
    · subst h
      rw [get?_commit_self, beq_self_eq_true]
    · rw [get?_commit_of_ne _ h, ih, beq_false_of_ne h]

/-- Commits of entities that are all new stay as they are. -/
theorem entries_commitAll_of_nodup : ∀ (commits : List (Entity × List Row)) {s : RowStore},
    (s.entities ++ commits.map Prod.fst).Nodup → (s.commitAll commits).entries = s.entries ++ commits
  | [], _, _ => (List.append_nil _).symm
  | (entity, rows) :: commits, s, h => by
    have hfresh : entity ∉ s.entities := fun hmem =>
      (List.nodup_append.mp h).2.2 _ hmem _ List.mem_cons_self rfl
    have hentries := entries_commit_of_not_mem s hfresh rows
    have hnodup : ((s.commit entity rows).entities ++ commits.map Prod.fst).Nodup := by
      rw [entities, hentries, List.map_append, List.append_assoc]
      exact h
    show ((s.commit entity rows).commitAll commits).entries = _
    rw [entries_commitAll_of_nodup commits hnodup, hentries, List.append_assoc]
    rfl

/-! ## Stores and their views -/

theorem eq_map_lookup : ∀ {entries : List (Entity × List Row)}, (entries.map Prod.fst).Nodup →
    entries = (entries.map Prod.fst).map fun entity => (entity, (entries.lookup entity).getD [])
  | [], _ => rfl
  | (entity, rows) :: rest, h => by
    obtain ⟨hnew, hrest⟩ := List.nodup_cons.mp h
    have hlookup : ∀ other ∈ rest.map Prod.fst, ((entity, rows) :: rest).lookup other = rest.lookup other := by
      intro other hother
      rw [List.lookup_cons, beq_false_of_ne (ne_of_mem_of_not_mem hother hnew)]
    have htail : rest = (rest.map Prod.fst).map fun other =>
        (other, (((entity, rows) :: rest).lookup other).getD []) := by
      refine (eq_map_lookup hrest).trans (List.map_congr_left fun other hother => ?_)
      rw [hlookup other hother]
    rw [List.map_cons, List.map_cons, ← htail, List.lookup_cons, beq_self_eq_true]
    rfl

theorem entries_eq_map {s : RowStore} (h : s.entities.Nodup) :
    s.entries = s.entities.map fun entity => (entity, (s.get? entity).getD []) :=
  eq_map_lookup h

theorem eq_of_get? {s t : RowStore} (hs : s.entities.Nodup) (hentities : s.entities = t.entities)
    (hget : ∀ entity, s.get? entity = t.get? entity) : s = t := by
  have hentries : s.entries = t.entries := by
    rw [entries_eq_map hs, entries_eq_map (hentities ▸ hs), hentities]
    simp only [hget]
  exact congrArg RowStore.mk hentries

end RowStore

end SeriesExport
