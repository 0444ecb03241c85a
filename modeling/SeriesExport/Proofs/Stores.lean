import Mathlib.Algebra.BigOperators.Group.Finset.Basic
import SeriesExport.Proofs.Commits

/-!
# Stores as maps

After any commits a store is a map from the entities that were committed to the rows of their last commits
(`RowStore.mem_entries_commitAll_iff`), which remembers in which order they came first (`RowStore.commitAll_exact`).
That an entity is there once only is kept by every commit, and it is why looking one up and going through all of them
tell the same.
-/

namespace SeriesExport

section

variable {α : Type} [DecidableEq α]

/-- What is left without the repetitions stands in the order of first occurrence. -/
theorem pairwise_idxOf_eraseDups (l : List α) : l.eraseDups.Pairwise fun a b => l.idxOf a < l.idxOf b := by
  induction l using List.reverseRecOn with
  | nil => exact List.Pairwise.nil
  | append_singleton l a ih =>
    have hbefore : l.eraseDups.Pairwise fun b c => (l ++ [a]).idxOf b < (l ++ [a]).idxOf c := by
      refine ih.imp_of_mem fun hb hc hlt => ?_
      rwa [List.idxOf_append_of_mem (List.mem_eraseDups.mp hb), List.idxOf_append_of_mem (List.mem_eraseDups.mp hc)]
    rw [eraseDups_concat]
    split
    · exact hbefore
    · next hnew =>
      refine List.pairwise_append.mpr ⟨hbefore, List.pairwise_singleton _ _, fun b hb c hc => ?_⟩
      obtain rfl := List.mem_singleton.mp hc
      have hmem := List.mem_eraseDups.mp hb
      have hlt := List.idxOf_lt_length_iff.mpr hmem
      rw [List.idxOf_append_of_mem hmem, List.idxOf_append_of_notMem hnew]
      omega

theorem toFinset_eraseDups (l : List α) : l.eraseDups.toFinset = l.toFinset := by
  ext a
  simp only [List.mem_toFinset, List.mem_eraseDups]

end

/-! ## Entries that are looked up -/

section

variable {α β : Type} [DecidableEq α] {l : List (α × β)} {a : α} {b : β}

theorem forall_bne_iff : (∀ entry ∈ l, (a != entry.1) = true) ↔ a ∉ l.map Prod.fst := by
  rw [List.mem_map]
  constructor
  · rintro h ⟨entry, hentry, rfl⟩
    exact bne_iff_ne.mp (h entry hentry) rfl
  · exact fun h entry hentry => bne_iff_ne.mpr fun heq => h ⟨entry, hentry, heq.symm⟩

/-- If no key is there twice, every entry is found. -/
theorem lookup_eq_some_iff_mem (h : (l.map Prod.fst).Nodup) : l.lookup a = some b ↔ (a, b) ∈ l := by
  rw [List.lookup_eq_some_iff]
  constructor
  · rintro ⟨front, back, rfl, -⟩
    exact List.mem_append_right _ List.mem_cons_self
  · intro hmem
    obtain ⟨front, back, rfl⟩ := List.append_of_mem hmem
    rw [List.map_append] at h
    have hnew : a ∉ front.map Prod.fst := fun hfront => (List.nodup_append.mp h).2.2 a hfront a List.mem_cons_self rfl
    exact ⟨front, back, rfl, forall_bne_iff.mpr hnew⟩

/-- The entry that is found from the end of a list is the last one of its key. -/
theorem lookup_reverse_eq_some_iff :
    l.reverse.lookup a = some b ↔ ∃ before after, l = before ++ (a, b) :: after ∧ a ∉ after.map Prod.fst := by
  rw [List.lookup_eq_some_iff]
  constructor
  · rintro ⟨front, back, hsplit, hfront⟩
    refine ⟨back.reverse, front.reverse, ?_, ?_⟩
    · rw [← List.reverse_reverse l, hsplit, List.reverse_append, List.reverse_cons, List.append_assoc]
      rfl
    · rw [List.map_reverse, List.mem_reverse]
      exact forall_bne_iff.mp hfront
  · rintro ⟨before, after, rfl, hafter⟩
    refine ⟨after.reverse, before.reverse, ?_, ?_⟩
    · rw [List.reverse_append, List.reverse_cons, List.append_assoc]
      rfl
    · exact forall_bne_iff.mpr (by rwa [List.map_reverse, List.mem_reverse])

end

namespace RowStore

/-! ## After any commits -/

theorem nodup_entities_commitAll (commits : List (Entity × List Row)) : (commitAll {} commits).entities.Nodup := by
  rw [entities_commitAll]
  exact nodup_eraseDups _

/-- Every entity has the rows of its last commit. -/
theorem mem_entries_commitAll_iff {commits : List (Entity × List Row)} {entity : Entity} {rows : List Row} :
    (entity, rows) ∈ (commitAll {} commits).entries ↔
      ∃ before after, commits = before ++ (entity, rows) :: after ∧ entity ∉ after.map Prod.fst := by
  rw [← lookup_eq_some_iff_mem (nodup_entities_commitAll commits), ← get?, get?_commitAll, lookup_reverse_eq_some_iff]

theorem get?_eq_none_iff {s : RowStore} {entity : Entity} : s.get? entity = none ↔ entity ∉ s.entities := by
  rw [get?, List.lookup_eq_none_iff, forall_bne_iff, entities]

theorem rowCount_eq {s : RowStore} (h : s.entities.Nodup) :
    s.rowCount = ∑ entity ∈ s.entities.toFinset, ((s.get? entity).getD []).length := by
  rw [List.sum_toFinset _ h, rowCount, rows, List.length_flatMap]
  nth_rewrite 1 [entries_eq_map h]
  rw [List.map_map]
  rfl

/-- A store is a map that remembers in which order entities came first: whatever is committed, every entity that is
committed is there once, in the place of its first commit and with the rows of its last one, and all that is read from
the store agrees with that. -/
theorem commitAll_exact (commits : List (Entity × List Row)) :
    (commitAll {} commits).entities.Nodup ∧
    (commitAll {} commits).entities.Pairwise
      (fun a b => (commits.map Prod.fst).idxOf a < (commits.map Prod.fst).idxOf b) ∧
    (∀ entity, entity ∈ (commitAll {} commits).entities ↔ entity ∈ commits.map Prod.fst) ∧
    (∀ entity rows, (entity, rows) ∈ (commitAll {} commits).entries ↔
      ∃ before after, commits = before ++ (entity, rows) :: after ∧ entity ∉ after.map Prod.fst) ∧
    (∀ entity rows, (commitAll {} commits).get? entity = some rows ↔ (entity, rows) ∈ (commitAll {} commits).entries) ∧
    (∀ entity, (commitAll {} commits).get? entity = none ↔ entity ∉ commits.map Prod.fst) ∧
    (commitAll {} commits).size = (commits.map Prod.fst).toFinset.card ∧
    (commitAll {} commits).rowCount =
      ∑ entity ∈ (commits.map Prod.fst).toFinset, (((commitAll {} commits).get? entity).getD []).length := by
  have hnodup := nodup_entities_commitAll commits
  have hentities := entities_commitAll commits
  have hmem (entity : Entity) : entity ∈ (commitAll {} commits).entities ↔ entity ∈ commits.map Prod.fst := by
    rw [hentities, List.mem_eraseDups]
  have hset : (commitAll {} commits).entities.toFinset = (commits.map Prod.fst).toFinset := by
    rw [hentities, toFinset_eraseDups]
  refine ⟨hnodup, ?_, hmem, fun entity rows => mem_entries_commitAll_iff,
    fun entity rows => lookup_eq_some_iff_mem hnodup, fun entity => ?_, ?_, ?_⟩
  · rw [hentities]
    exact pairwise_idxOf_eraseDups _
  · rw [get?_eq_none_iff, hmem]
  · rw [← hset, List.toFinset_card_of_nodup hnodup, entities, List.length_map, size]
  · rw [rowCount_eq hnodup, hset]

end RowStore
end SeriesExport
