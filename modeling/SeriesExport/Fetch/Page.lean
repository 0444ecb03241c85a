import SeriesExport.Client
import SeriesExport.Paging.Cursor
import SeriesExport.Table.RowStore

/-!
# Fetching one page

A task goes through the pages of its entity one request at a time (`TaskRun`). Before a request is sent, and again when
its reply is in, the run asks whether it has been aborted; a page that comes too late is not looked at.
-/

namespace SeriesExport

/-- What all pages of an export have in common. -/
structure FetchSetting where
  config : Config
  range : TimeRange
  timeFormat : TimeFormat

/-- A task, the page it is at and the rows of the pages before. -/
structure TaskRun where
  task : FetchTask
  cursor : Cursor
  rows : List Row := []

namespace TaskRun

/-- A task that has not asked for anything yet. -/
def start (task : FetchTask) (perPage : UInt64) : TaskRun := { task, cursor := { perPage } }

/-- What comes of a page: a later page, the end of the entity, or the end of the export. -/
inductive Outcome (run : TaskRun) where
  | next (later : TaskRun) (advanced : run.cursor.page < later.cursor.page)
  | done (pages total : UInt64) (rows : List Row)
  | failed (page : UInt64) (cause : ExportError)
  | aborted (page : UInt64) (discarded : Nat)

/-- What the run's page is asked with. -/
def query (setting : FetchSetting) (run : TaskRun) : Query :=
  pageQuery [("start", setting.range.startParam), ("end", setting.range.stopParam)] run.cursor.perPage run.cursor.page

/-- The rows of a page. -/
def pageRows (setting : FetchSetting) (task : FetchTask) (page : Page) : List Row :=
  page.records.map (projectRecord task.attributes task.entity.timeKeys setting.timeFormat)

/-- The rows so far and those of one more page; a page that reports no items at all has none. -/
def rowsWith (setting : FetchSetting) (run : TaskRun) (page : Page) : List Row :=
  if page.total = 0 then run.rows else run.rows ++ pageRows setting run.task page

/-- The run goes on while the total that its last page reported exceeds what its pages cover. -/
def acceptPage (setting : FetchSetting) (run : TaskRun) (page : Page) : Dialogue (Outcome run) := do
  let cursor := { run.cursor with total := some page.total }
  Dialogue.reportProgress (.sub cursor.fraction)
  let rows := run.rowsWith setting page
  match cursor.next? with
  | some ⟨later, advanced⟩ => return .next ⟨run.task, later, rows⟩ advanced
  | none => return .done cursor.page page.total rows

def abort (run : TaskRun) : Outcome run := .aborted run.cursor.page run.rows.length

/-- Asks for the page that the run is at. -/
def fetchPage (setting : FetchSetting) (run : TaskRun) : Dialogue (Outcome run) := do
  if ← Dialogue.isAborted then return run.abort
  else match ← Client.get setting.config run.task.entity.path (run.query setting) with
    | .error cause => return .failed run.cursor.page cause
    | .ok body =>
      if ← Dialogue.isAborted then return run.abort
      else match Page.decode body with
        | .error fault => return .failed run.cursor.page (.undecodable fault)
        | .ok page => run.acceptPage setting page

end TaskRun

end SeriesExport
