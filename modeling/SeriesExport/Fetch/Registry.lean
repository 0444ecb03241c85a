import SeriesExport.Client
import SeriesExport.Paging.Cursor
import SeriesExport.Paging.Page

/-!
# Listing the registry

The registry is read page by page, as the records of an entity are. A page that reports a total of zero ends the
listing with no sources at all.
-/

namespace SeriesExport.Registry

/-- What a page of the registry is asked with. -/
def query (cursor : Cursor) : Query := pageQuery [] cursor.perPage cursor.page

/-- The sources of the pages from the cursor on, after those that are loaded. -/
def listFrom (config : Config) (cursor : Cursor) (loaded : List DataSource) : Dialogue (Result (List DataSource)) := do
  match ← Client.get config "/registry" (query cursor) with
  | .error cause => return .error cause
  | .ok body =>
    match RegistryPage.decode body with
    | .error fault => return .error (.undecodable fault)
    | .ok page =>
      if page.total = 0 then return .ok []
      else
        match { cursor with total := some page.total : Cursor }.next? with
        | some ⟨later, _⟩ => listFrom config later (loaded ++ page.entries)
        | none => return .ok (loaded ++ page.entries)
termination_by UInt64.size - cursor.page.toNat
decreasing_by
  have := later.page.toNat_lt_size
  have : cursor.page < later.page := by assumption
  have := UInt64.lt_iff_toNat_lt.mp this
  omega

/-- All sources in the order of the registry. -/
def listSources (config : Config) : Dialogue (Result (List DataSource)) :=
  match config.validate with
  | .error cause => return .error cause
  | .ok () => listFrom config { perPage := config.registryPerPage } []

end SeriesExport.Registry
