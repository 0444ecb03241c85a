import SeriesExport.Json.Decode
import SeriesExport.Json.Printer

/-!
# Sources and the aggregations they carry

The registry lists the data sources, each with descriptors of the aggregations that are computed of it
(`Descriptor`) and with any other members, which are kept (`DataSource.extra`).
-/

namespace SeriesExport

open Json (Decoder fill)

structure Descriptor where
  id : String
  /-- what is computed for each interval -/
  operators : List String := []
  interval : String
  /-- how long the results are kept; empty for ever -/
  retention : String := ""
  deriving DecidableEq, Repr

namespace Descriptor

structure Form where
  id : Option String := none
  operators : Option (List String) := none
  interval : Option String := none
  retention : Option String := none

def shape : Json.Shape Form Descriptor where
  blank := {}
  member room name f := match name with
    | "id" => fill f.id (Decoder.string room) fun v => { f with id := some v }
    | "aggregates" => fill f.operators (Decoder.list Decoder.string room) fun v => { f with operators := some v }
    | "interval" => fill f.interval (Decoder.string room) fun v => { f with interval := some v }
    | "retention" => fill f.retention (Decoder.string room) fun v => { f with retention := some v }
    | _ => none
  finish f := do
    let id ← f.id
    let interval ← f.interval
    some { id, interval, operators := f.operators.getD [], retention := f.retention.getD "" }
  order := some ["id", "aggregates", "interval", "retention"]

def decode (text : String) : Except Json.Fault Descriptor := shape.decoder.decode text

/-- The members of the descriptor in the order in which they are written. -/
def members (d : Descriptor) : Json.Members :=
  [("id", .string d.id), ("aggregates", .array (d.operators.map .string)), ("interval", .string d.interval),
    ("retention", .string d.retention)]

end Descriptor

structure DataSource where
  id : String
  aggregation : List Descriptor := []
  /-- all other members -/
  extra : Json.Members := []
  deriving Repr

namespace DataSource

structure Form where
  id : Option String := none
  aggregation : Option (List Descriptor) := none
  extra : Json.Members := []

/-- A list of descriptors, empty if it is null. -/
def descriptors : Decoder (List Descriptor) := fun room outline =>
  (·.getD []) <$> Decoder.nullable (Decoder.list Descriptor.shape.decoder) room outline

/-- A source is always an object: its other members have no place in an array. -/
def shape : Json.Shape Form DataSource where
  blank := {}
  member room name f := match name with
    | "id" => fill f.id (Decoder.string room) fun v => { f with id := some v }
    | "aggregation" => fill f.aggregation (descriptors room) fun v => { f with aggregation := some v }
    | _ => some fun outline => do
      let value ← outline.value room
      return { f with extra := f.extra.insert name value }
  finish f := do
    let id ← f.id
    some { id, aggregation := f.aggregation.getD [], extra := f.extra }
  order := none

def decode (text : String) : Except Json.Fault DataSource := shape.decoder.decode text

/-- The members as they are written: the known ones first. -/
def members (s : DataSource) : Json.Members :=
  [("id", .string s.id), ("aggregation", .array (s.aggregation.map fun d => .object d.members))] ++ s.extra

/-- The text of the source. -/
def wire (s : DataSource) : String := Json.render (.object s.members)

end DataSource

end SeriesExport
