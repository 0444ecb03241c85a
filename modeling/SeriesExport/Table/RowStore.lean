import SeriesExport.Table.Projection

/-!
# Fetched rows

The rows of each entity, entities in the order in which they were first committed. Committing an entity again replaces
its rows and leaves it where it is.
-/

namespace SeriesExport

structure RowStore where
  entries : List (Entity × List Row) := []
  deriving Repr

namespace RowStore

def commitTo (entity : Entity) (rows : List Row) : List (Entity × List Row) → List (Entity × List Row)
  | [] => [(entity, rows)]
  | (other, old) :: rest =>
    if other = entity then (other, rows) :: rest else (other, old) :: commitTo entity rows rest

def commit (s : RowStore) (entity : Entity) (rows : List Row) : RowStore := ⟨commitTo entity rows s.entries⟩

def get? (s : RowStore) (entity : Entity) : Option (List Row) := s.entries.lookup entity

def entities (s : RowStore) : List Entity := s.entries.map Prod.fst

/-- All rows in the order of their entities. -/
def rows (s : RowStore) : List Row := s.entries.flatMap Prod.snd

/-- The number of entities. -/
def size (s : RowStore) : Nat := s.entries.length

def isEmpty (s : RowStore) : Bool := s.entries.isEmpty

def rowCount (s : RowStore) : Nat := s.rows.length

/-! ## What a commit does to the view -/

theorem lookup_commitTo_self (entity : Entity) (rows : List Row) : ∀ entries,
    (commitTo entity rows entries).lookup entity = some rows
  | [] => by simp [commitTo]
  | (other, old) :: rest => by
    rw [commitTo]
    split
    · next h => simp [h]
    · next h =>
      rw [List.lookup_cons, beq_false_of_ne (Ne.symm h)]
      exact lookup_commitTo_self entity rows rest

theorem lookup_commitTo_of_ne {entity other : Entity} (hne : other ≠ entity) (rows : List Row) : ∀ entries,
    (commitTo entity rows entries).lookup other = entries.lookup other
  | [] => by simp [commitTo, List.lookup_cons, beq_false_of_ne hne]
  | (third, old) :: rest => by
    rw [commitTo]
    split
    · next h => subst h; simp [List.lookup_cons, beq_false_of_ne hne]
    · rw [List.lookup_cons, List.lookup_cons, lookup_commitTo_of_ne hne rows rest]

theorem commitTo_of_not_mem {entity : Entity} (rows : List Row) : ∀ {entries : List (Entity × List Row)},
    entity ∉ entries.map Prod.fst → commitTo entity rows entries = entries ++ [(entity, rows)]
  | [], _ => rfl
  | (other, old) :: rest, h => by
    rw [List.map_cons, List.mem_cons, not_or] at h
    rw [commitTo, if_neg (Ne.symm h.1), commitTo_of_not_mem rows h.2, List.cons_append]

/-- An entity that is committed for the first time comes last. -/
theorem entries_commit_of_not_mem (s : RowStore) {entity : Entity} (h : entity ∉ s.entities) (rows : List Row) :
    (s.commit entity rows).entries = s.entries ++ [(entity, rows)] :=
  commitTo_of_not_mem rows h

@[simp] theorem get?_commit_self (s : RowStore) (entity : Entity) (rows : List Row) :
    (s.commit entity rows).get? entity = some rows :=
  lookup_commitTo_self entity rows s.entries

theorem get?_commit_of_ne (s : RowStore) {entity other : Entity} (hne : other ≠ entity) (rows : List Row) :
    (s.commit entity rows).get? other = s.get? other :=
  lookup_commitTo_of_ne hne rows s.entries

end RowStore

end SeriesExport
