import SeriesExport.Fetch.Page
import SeriesExport.Output.Artifact

/-!
# Fetching an export

The tasks of a job are done strictly one after the other, each through all of its pages, with never more than one
request on its way. What fails or is aborted fails as a whole: the rows of finished tasks are not returned.
-/

namespace SeriesExport

namespace TaskRun

/-- All pages from the one that the run is at. A later page has a greater number, and numbers end. -/
def fetchPages (setting : FetchSetting) (run : TaskRun) : Dialogue (Result (List Row)) := do
  match ← run.fetchPage setting with
  | .next later _ => later.fetchPages setting
  | .done _ _ rows => return .ok rows
  | .failed _ cause => return .error cause
  | .aborted _ _ => return .error .aborted
termination_by UInt64.size - run.cursor.page.toNat
decreasing_by
  have := later.cursor.page.toNat_lt_size
  have := UInt64.lt_iff_toNat_lt.mp ‹run.cursor.page < later.cursor.page›
  omega

end TaskRun

/-- Raw and aggregated data have page sizes of their own. -/
def Config.perPage (c : Config) : Entity → UInt64
  | .source _ => c.dataPerPage
  | .aggregation .. => c.aggregationPerPage

/-- The part of the tasks that is done when `waiting` of `all` are left; all of it if there is nothing to do. -/
def doneFraction (waiting all : Nat) : Binary64 :=
  if all = 0 then .ofNat 1 else (Binary64.ofNat 1).sub ((Binary64.ofNat waiting).div (.ofNat all))

/-- Fetches the tasks in their order, `all` being the number of tasks of the whole export. -/
def fetchTasks (setting : FetchSetting) (all : Nat) : List FetchTask → RowStore → Dialogue (Result RowStore)
  | [], store => do
    Dialogue.reportProgress (.main (doneFraction 0 all))
    return .ok store
  | task :: waiting, store => do
    Dialogue.reportProgress (.main (doneFraction (waiting.length + 1) all))
    match ← (TaskRun.start task (setting.config.perPage task.entity)).fetchPages setting with
    | .ok rows => fetchTasks setting all waiting (store.commit task.entity rows)
    | .error cause => return .error cause

/-- Fetches the given tasks for a job. Page sizes of zero would never come to an end and are refused at once. -/
def fetch (config : Config) (job : ExportJob) (tasks : List FetchTask) : Dialogue (Result RowStore) :=
  match config.validate with
  | .error cause => return .error cause
  | .ok () => fetchTasks ⟨config, job.range, job.timeFormat⟩ tasks.length tasks {}

/-- Fetches the given tasks and puts their rows into a file. -/
def exportTasks (config : Config) (job : ExportJob) (tasks : List FetchTask) : Dialogue (Result Artifact) := do
  match ← fetch config job tasks with
  | .ok store => return serialize store job.layout
  | .error cause => return .error cause

/-- The whole export of a job. -/
def ExportJob.run (config : Config) (job : ExportJob) : Dialogue (Result Artifact) :=
  exportTasks config job job.tasks

end SeriesExport
