import SeriesExport.Aggregation.Descriptor
import SeriesExport.Catalog

/-!
# Groups of aggregations

Sources that carry an aggregation of the same id are exported together, so their descriptors are collected in a group.
The first descriptor of an id fixes operators and interval, and every later one must agree with it. They need not agree
on the retention; once they do not, the group has none of its own (`Retention.multiple`).
-/

namespace SeriesExport

inductive Retention where
  | infinite
  | duration (text : String)
  | multiple
  deriving DecidableEq, Repr

namespace Retention

def ofText (text : String) : Retention :=
  if text = "" then .infinite else .duration text

def text : Retention → String
  | .infinite => "∞"
  | .duration text => text
  | .multiple => "multiple durations"

/-- The retention of a group that is joined by a descriptor with another one. -/
def meet (r s : Retention) : Retention := if r = s then r else .multiple

end Retention

structure AggregationGroup where
  id : String
  operators : List String
  interval : String
  retention : Retention
  /-- the sources that carry the aggregation, in the order they were met -/
  sources : List String
  deriving DecidableEq, Repr

namespace AggregationGroup

def ofDescriptor (source : String) (d : Descriptor) : AggregationGroup where
  id := d.id
  operators := d.operators
  interval := d.interval
  retention := .ofText d.retention
  sources := [source]

/-- What the descriptor and the group disagree on. -/
def conflict? (g : AggregationGroup) (d : Descriptor) : Option DescriptorField :=
  if d.operators ≠ g.operators then some .operators
  else if d.interval ≠ g.interval then some .interval
  else none

/-- The group with one more source. -/
def join (g : AggregationGroup) (source : String) (d : Descriptor) : Result AggregationGroup :=
  match g.conflict? d with
  | some field => .error (.inconsistentAggregation g.id source field)
  | none => .ok { g with sources := g.sources ++ [source], retention := g.retention.meet (.ofText d.retention) }

/-- `mean, max every 1h. Retention: ∞ (3 sources)` -/
def summary (g : AggregationGroup) : String :=
  ", ".intercalate g.operators ++ " every " ++ g.interval ++ ". Retention: " ++ g.retention.text ++ " (" ++
    toString g.sources.length ++ " sources)"

/-- What is exported of the group if nothing else is asked for: all of the catalog and all of its operators. -/
def defaultAttributes (g : AggregationGroup) : String :=
  ",".intercalate (Catalog.aggregation.names ++ g.operators)

end AggregationGroup

/-- The groups in the order in which their ids were first met. -/
abbrev AggregationGroups := List AggregationGroup

namespace AggregationGroups

/-- The group of an id. -/
def get? (groups : AggregationGroups) (id : String) : Option AggregationGroup :=
  groups.find? (·.id = id)

/-- The groups after one more descriptor. -/
def insert (source : String) (d : Descriptor) : AggregationGroups → Result AggregationGroups
  | [] => .ok [.ofDescriptor source d]
  | g :: groups =>
    if g.id = d.id then do return (← g.join source d) :: groups
    else do return g :: (← AggregationGroups.insert source d groups)

/-- The descriptors of all sources, each with its source, in the order they are met. -/
def visits (sources : List (String × List Descriptor)) : List (String × Descriptor) :=
  sources.flatMap fun (source, ds) => ds.map fun d => (source, d)

/-- Groups the descriptors of the sources; refused at the first one that disagrees with its group. -/
def ofSources (sources : List (String × List Descriptor)) : Result AggregationGroups :=
  (visits sources).foldlM (fun groups (source, d) => groups.insert source d) []

end AggregationGroups

/-- Groups the aggregations of listed sources. -/
def groupAggregations (sources : List DataSource) : Result AggregationGroups :=
  AggregationGroups.ofSources (sources.map fun s => (s.id, s.aggregation))

end SeriesExport
