import SeriesExport.Aggregation.Descriptor

/-!
# Pages

The answers that carry lists: a page of records of an entity, and a page of the registry. Both report the total number
of items on all pages.
-/

namespace SeriesExport

open Json (Decoder fill)

/-- A record of the server, short keys to values. -/
abbrev Record := Json.Members

structure Page where
  total : UInt64
  /-- the records, if the page has a part for them -/
  data : Option (List Record) := none
  deriving Repr

namespace Page

def records (p : Page) : List Record := p.data.getD []

/-- The part of a page that has the records. -/
def dataShape : Json.Shape (Option (List Record)) (List Record) where
  blank := none
  member room name f := match name with
    | "e" => fill f (Decoder.list Decoder.members room) some
    | _ => none
  finish f := some (f.getD [])
  order := some ["e"]

structure Form where
  total : Option UInt64 := none
  data : Option (Option (List Record)) := none

def shape : Json.Shape Form Page where
  blank := {}
  member room name f := match name with
    | "total" => fill f.total (Decoder.word room) fun v => { f with total := some v }
    | "data" => fill f.data (Decoder.nullable dataShape.decoder room) fun v => { f with data := some v }
    | _ => none
  finish f := do
    let total ← f.total
    some { total, data := f.data.getD none }
  order := some ["total", "data"]

def decode (text : String) : Except Json.Fault Page := shape.decoder.decode text

end Page

/-- A page of the registry. -/
structure RegistryPage where
  total : UInt64
  entries : List DataSource := []
  deriving Repr

namespace RegistryPage

structure Form where
  total : Option UInt64 := none
  entries : Option (Option (List DataSource)) := none

def shape : Json.Shape Form RegistryPage where
  blank := {}
  member room name f := match name with
    | "total" => fill f.total (Decoder.word room) fun v => { f with total := some v }
    | "entries" =>
      let entries := Decoder.nullable (Decoder.list DataSource.shape.decoder) room
      fill f.entries entries fun v => { f with entries := some v }
    | _ => none
  finish f := do
    let total ← f.total
    some { total, entries := (f.entries.getD none).getD [] }
  order := some ["total", "entries"]

def decode (text : String) : Except Json.Fault RegistryPage := shape.decoder.decode text

end RegistryPage

end SeriesExport
