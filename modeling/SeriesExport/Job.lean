import SeriesExport.Aggregation.Group
import SeriesExport.Entity

/-!
# Export jobs

A job says what is exported, between which times and in which layout. It is built from what the user entered
(`ExportJob.ofData`, `ExportJob.ofAggregations`), and building it checks everything that can be checked without the
server. `ExportJob.tasks` is the list of what is to be fetched.
-/

namespace SeriesExport

/-- The files of an export. -/
inductive Layout where
  /-- one table -/
  | singleFile
  /-- an archive with a table for each entity -/
  | perEntity
  /-- an archive with a table for each aggregation -/
  | perAggregation
  deriving DecidableEq, Repr

/-- How times are written. -/
inductive TimeFormat where
  /-- as they come: seconds since 1970-01-01 -/
  | epochSeconds
  | iso8601
  deriving DecidableEq, Repr

/-- What an export asks for in either mode. -/
structure Options where
  start : String := ""
  stop : String := ""
  layout : Layout := .singleFile
  timeFormat : TimeFormat := .epochSeconds

/-- Raw data to export. -/
structure DataSelection extends Options where
  /-- comma separated -/
  attributes : String
  sources : List String

/-- An aggregation to export, with its comma separated attributes. -/
structure Choice where
  aggregation : String
  attributes : String
  deriving DecidableEq, Repr

/-- Aggregated data to export. -/
structure AggregationSelection extends Options where
  choices : List Choice

/-- The columns for an aggregation and the sources to fetch it of. -/
structure AggregationProjection where
  aggregation : String
  sources : List String
  attributes : Projection
  deriving DecidableEq, Repr

inductive Target where
  | raw (sources : List String) (attributes : Projection)
  | aggregations (projections : List AggregationProjection)
  deriving DecidableEq, Repr

structure ExportJob where
  target : Target
  range : TimeRange
  layout : Layout
  timeFormat : TimeFormat
  deriving DecidableEq, Repr

namespace ExportJob

/-! ## Tasks -/

def rawTasks (sources : List String) (attributes : Projection) : List FetchTask :=
  sources.map fun id => ⟨.source id, attributes⟩

def aggregationTasks (p : AggregationProjection) : List FetchTask :=
  p.sources.map fun source => ⟨.aggregation p.aggregation source, p.attributes⟩

/-- One task for each source, or for each source of each aggregation. -/
def tasks (job : ExportJob) : List FetchTask :=
  match job.target with
  | .raw sources attributes => rawTasks sources attributes
  | .aggregations ps => ps.flatMap aggregationTasks

/-! ## Building a job -/

def rangeOf (o : Options) : Result TimeRange :=
  match TimeRange.ofTexts? o.start o.stop with
  | .ok range => .ok range
  | .error flaw => .error (.invalidTimeRange flaw)

def ofData (s : DataSelection) : Result ExportJob :=
  if s.layout = .perAggregation then .error .layoutNeedsAggregations
  else
    match attributeNames s.attributes with
    | [] => .error (.invalidAttribute "")
    | names => do
      let attributes ← Catalog.data.project names
      let range ← rangeOf s.toOptions
      return ⟨.raw s.sources attributes, range, s.layout, s.timeFormat⟩

/-- The key of an attribute of a group: the catalog's, or the name itself if it is an operator of the group. -/
def groupKey (g : AggregationGroup) (name : String) : Result String :=
  match Catalog.aggregation.key? name with
  | some key => .ok key
  | none => if name ∈ g.operators then .ok name else .error (.invalidAttribute name)

/-- The columns that a list of attributes asks of a group. -/
def groupProjection (g : AggregationGroup) (attributes : String) : Result Projection :=
  match attributeNames attributes with
  | [] | "" :: _ => .error (.noAttributes g.id)
  | names => names.mapM (groupKey g)

/-- The first choice of the group's aggregation counts; a group without one is left out. -/
def groupProjection? (choices : List Choice) (g : AggregationGroup) : Result (Option AggregationProjection) :=
  match choices.find? (·.aggregation = g.id) with
  | none => .ok none
  | some choice => do return some ⟨g.id, g.sources, ← groupProjection g choice.attributes⟩

/-- Aggregations keep the order of their groups, whatever the order of the choices. -/
def ofAggregations (s : AggregationSelection) (groups : AggregationGroups) : Result ExportJob :=
  if s.choices = [] then .error .noAggregationsSelected
  else
    match s.choices.find? fun choice => (groups.get? choice.aggregation).isNone with
    | some unknown => .error (.unknownAggregation unknown.aggregation)
    | none => do
      let projections ← groups.mapM (groupProjection? s.choices)
      let range ← rangeOf s.toOptions
      return ⟨.aggregations (projections.filterMap id), range, s.layout, s.timeFormat⟩

end ExportJob

/-- What is exported of the groups if the user chooses none: everything. -/
def defaultChoices (groups : AggregationGroups) : List Choice :=
  groups.map fun g => ⟨g.id, g.defaultAttributes⟩

end SeriesExport
