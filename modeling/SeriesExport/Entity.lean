import SeriesExport.Catalog

/-!
# Entities

What is fetched at a time: the raw data of a source, or one aggregation of a source. Both have an address on the
server (`path`), a name in the output (`name`) and keys under which their records have times (`timeKeys`).
-/

namespace SeriesExport

inductive Entity where
  | source (id : String)
  | aggregation (aggregation source : String)
  deriving DecidableEq, Repr

namespace Entity

def path : Entity → String
  | .source id => "/data/" ++ id
  | .aggregation a s => "/aggr/" ++ a ++ "/" ++ s

/-- The name of the entity's file in an archive, without its ending. -/
def name : Entity → String
  | .source id => id
  | .aggregation a s => a ++ "_" ++ s

def aggregation? : Entity → Option String
  | .source _ => none
  | .aggregation a _ => some a

/-- The keys whose values are seconds since 1970-01-01. -/
def timeKeys : Entity → List String
  | .source _ => ["t"]
  | .aggregation .. => ["ts", "te"]

end Entity

/-- An entity to fetch, and the columns to keep of its records. -/
structure FetchTask where
  entity : Entity
  attributes : Projection
  deriving DecidableEq, Repr

end SeriesExport
