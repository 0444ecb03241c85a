import SeriesExport.Output.Csv

/-!
# Export files

The file that an export produces (`serialize`): one table, or an archive of tables. An archive has no two members of
one name.
-/

namespace SeriesExport

/-- A file in an archive. -/
structure Member where
  name : String
  body : String
  deriving DecidableEq, Repr

inductive Content where
  | text (text : String)
  | archive (members : List Member)
  deriving DecidableEq, Repr

structure Artifact where
  filename : String
  mime : String
  content : Content
  deriving DecidableEq, Repr

/-- The members of an archive, refused at the first name that comes a second time. -/
def archiveMembers : List Member → List Member → Result (List Member)
  | written, [] => .ok written
  | written, m :: ms =>
    if m.name ∈ written.map Member.name then .error (.duplicateMember m.name)
    else archiveMembers (written ++ [m]) ms

/-- The archive of the given tables, each with the name of its file without the ending. -/
def archiveOf (tables : List (String × List Row)) : Result Artifact := do
  let members ← archiveMembers [] (tables.map fun (name, rows) => ⟨name ++ ".csv", Csv.render rows⟩)
  return ⟨"export.zip", "application/zip", .archive members⟩

/-- The name under which the rows of an entity are put together. -/
def Entity.mergedName (e : Entity) : String := e.aggregation?.getD e.name

/-- Appends rows to those of the same name. -/
def mergeInto (name : String) (rows : List Row) : List (String × List Row) → List (String × List Row)
  | [] => [(name, rows)]
  | (other, old) :: rest =>
    if other = name then (other, old ++ rows) :: rest else (other, old) :: mergeInto name rows rest

/-- The rows of the sources of each aggregation, put together in the order of their commits. -/
def mergeByAggregation (store : RowStore) : List (String × List Row) :=
  store.entries.foldl (fun merged (entity, rows) => mergeInto entity.mergedName rows merged) []

/-- The file for the rows in the given layout. -/
def serialize (store : RowStore) : Layout → Result Artifact
  | .singleFile => .ok ⟨"export.csv", "text/csv;charset=utf-8", .text (Csv.render store.rows)⟩
  | .perEntity => archiveOf (store.entries.map fun (entity, rows) => (entity.name, rows))
  | .perAggregation => archiveOf (mergeByAggregation store)

end SeriesExport
