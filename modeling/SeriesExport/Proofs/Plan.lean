import SeriesExport.Proofs.Fetching

/-!
# A fetch follows its plan

The replies of a server come in one after the other. `visits` cuts them up: each task, in the order of the list, gets
the pages up to the first that reports no more than the pages of the task hold (`lastPage`), and the next task goes on
with the page after. A fetch sends the requests for just these pages and commits their rows (`fetch_inTurn`).
-/

namespace SeriesExport

/-- The pages of each task, when pages without end are handed out in the order of the tasks. -/
noncomputable def visits (config : Config) : List FetchTask → Stream' Page → List (FetchTask × List Page)
  | [], _ => []
  | task :: tasks, pages =>
    let last := lastPage (pageSize config task.entity) pages
    (task, pages.take last) :: visits config tasks (pages.drop last)

theorem map_fst_visits (config : Config) : ∀ (tasks : List FetchTask) (pages : Stream' Page),
    (visits config tasks pages).map Prod.fst = tasks
  | [], _ => rfl
  | task :: tasks, _ => congrArg (task :: ·) (map_fst_visits config tasks _)

theorem pagesFrom_visits {config : Config} (hsize : ∀ entity, 0 < pageSize config entity) :
    ∀ (tasks : List FetchTask) (pages : Stream' Page), ∀ visit ∈ visits config tasks pages,
      PagesFrom (pageSize config visit.1.entity) 1 visit.2
  | task :: tasks, pages, visit, h => by
    rcases List.mem_cons.mp h with rfl | h
    · exact pagesFrom_take_lastPage (hsize task.entity) pages
    · exact pagesFrom_visits hsize tasks _ visit h

/-- All pages of the tasks, one task after the other, are the first of the pages that are handed out. -/
theorem flatMap_snd_visits (config : Config) : ∀ (tasks : List FetchTask) (pages : Stream' Page),
    (visits config tasks pages).flatMap Prod.snd =
      pages.take ((visits config tasks pages).flatMap Prod.snd).length
  | [], _ => rfl
  | task :: tasks, pages => by
    have ih := flatMap_snd_visits config tasks (pages.drop (lastPage (pageSize config task.entity) pages))
    simp only [visits, List.flatMap_cons, List.length_append, Stream'.length_take]
    rw [Stream'.take_add, ← ih]

theorem length_flatMap_visitRequests (setting : FetchSetting) (token : Option String) :
    ∀ visits : List (FetchTask × List Page),
      (visits.flatMap (visitRequests setting token)).length = (visits.flatMap Prod.snd).length
  | [] => rfl
  | visit :: visits => by
    simp [length_flatMap_visitRequests setting token visits, length_visitRequests]

/-- **A fetch follows its plan.** If every reply is a page, whatever the totals and the records, and nobody aborts, the
requests are those for the pages of the tasks and the rows are the rows of these pages. -/
theorem fetch_inTurn {config : Config} (hconfig : config.validate = .ok ()) (job : ExportJob) (tasks : List FetchTask)
    {w : World (Stream' Reply)} {pages : Stream' Page} (hw : w.cancelled = false)
    (hpages : ∀ n, (w.server.get n).page? = some (pages.get n)) :
    let setting : FetchSetting := ⟨config, job.range, job.timeFormat⟩
    let run := (fetch config job tasks).run Environment.inTurn w
    run.1 = .ok (commitVisits setting {} (visits config tasks pages)) ∧
      run.2.requests = w.requests ++ (visits config tasks pages).flatMap (visitRequests setting w.session.token) := by
  intro setting run
  have hserves := Environment.serves_inTurn
    ((visits config tasks pages).flatMap (visitRequests setting w.session.token)) hpages
  rw [length_flatMap_visitRequests, ← flatMap_snd_visits] at hserves
  have hsize : ∀ entity, 0 < pageSize setting.config entity := pageSize_pos hconfig
  obtain ⟨v, hrun, hmoved⟩ := run_fetchTasks Environment.quiet_inTurn tasks.length hsize
    (visits config tasks pages) {} hw (pagesFrom_visits hsize tasks pages) hserves
  rw [map_fst_visits] at hrun
  have hfetch : run = (.ok (commitVisits setting {} (visits config tasks pages)), v) := by
    show (fetch config job tasks).run _ w = _
    rw [fetch, hconfig]
    exact hrun
  rw [hfetch]
  exact ⟨rfl, hmoved.requests⟩

/-! ### Two tasks -/

/-- A page with one record that reports two of them. -/
def twoRecords : Page := ⟨2, some [[("n", .string "x")]]⟩

/-- The reply with that page. -/
def twoRecordsReply : Reply := .answered ⟨200, "\x7b\"total\":2,\"data\":\x7b\"e\":[\x7b\"n\":\"x\"\x7d]\x7d\x7d"⟩

theorem page?_twoRecordsReply : twoRecordsReply.page? = some twoRecords := by cbv

/-- Raw data one record at a time, and aggregated data two at a time. -/
def smallPages : Config := { dataPerPage := 1, aggregationPerPage := 2 }

def namesOfBoth : List FetchTask := [⟨.source "a", ["n"]⟩, ⟨.aggregation "m" "a", ["n"]⟩]

def namesJob : ExportJob := ⟨.raw ["a"] ["n"], {}, .singleFile, .epochSeconds⟩

theorem lastPage_twoRecords : lastPage 2 (Stream'.const twoRecords) = 1 :=
  lastPage_eq (by decide) (by decide) fun p h1 h2 => by omega

/-- The source has two pages and the aggregation one, though all pages are alike. -/
theorem visits_namesOfBoth : visits smallPages namesOfBoth (Stream'.const twoRecords) =
    [(⟨.source "a", ["n"]⟩, [twoRecords, twoRecords]), (⟨.aggregation "m" "a", ["n"]⟩, [twoRecords])] := by
  have hsource : lastPage 1 (Stream'.const twoRecords) = 2 :=
    lastPage_eq (by decide) (by decide) fun p h1 h2 => by
      obtain rfl : p = 1 := by omega
      decide
  show [(_, Stream'.take (lastPage 1 _) _), (_, Stream'.take (lastPage 2 (Stream'.drop (lastPage 1 _) _)) _)] = _
  rw [hsource, Stream'.drop_const, lastPage_twoRecords]
  rfl

theorem visits_twoRecords : ∀ {tasks : List FetchTask}, (∀ task ∈ tasks, pageSize smallPages task.entity = 2) →
    visits smallPages tasks (Stream'.const twoRecords) = tasks.map fun task => (task, [twoRecords])
  | [], _ => rfl
  | task :: tasks, h => by
    have ih := visits_twoRecords fun task htask => h task (List.mem_cons_of_mem _ htask)
    rw [visits, h task List.mem_cons_self, lastPage_twoRecords, Stream'.drop_const, ih]
    rfl

/-- Every aggregation has one page. -/
theorem run_fetch_twoRecords (job : ExportJob) {tasks : List FetchTask}
    (htasks : ∀ task ∈ tasks, pageSize smallPages task.entity = 2) :
    ((fetch smallPages job tasks).run Environment.inTurn { server := Stream'.const twoRecordsReply }).1 =
      .ok (commitVisits ⟨smallPages, job.range, job.timeFormat⟩ {} (tasks.map fun task => (task, [twoRecords]))) := by
  let setting : FetchSetting := ⟨smallPages, job.range, job.timeFormat⟩
  have hsize : ∀ entity, 0 < pageSize setting.config entity := pageSize_pos (by rfl : smallPages.validate = .ok ())
  have hpages : ∀ n, ((Stream'.const twoRecordsReply).get n).page? = some ((Stream'.const twoRecords).get n) :=
    fun _ => page?_twoRecordsReply
  have hserves := Environment.serves_inTurn
    ((visits smallPages tasks (Stream'.const twoRecords)).flatMap (visitRequests setting none)) hpages
  rw [length_flatMap_visitRequests, ← flatMap_snd_visits] at hserves
  obtain ⟨v, hrun, -⟩ := run_fetchTasks (w := { server := Stream'.const twoRecordsReply }) Environment.quiet_inTurn
    tasks.length hsize _ {} rfl (pagesFrom_visits hsize tasks (Stream'.const twoRecords)) hserves
  rw [map_fst_visits, visits_twoRecords htasks] at hrun
  exact congrArg Prod.fst hrun

/-- Three requests for two entities. -/
theorem fetch_inTurn_namesOfBoth :
    let w : World (Stream' Reply) := { server := Stream'.const twoRecordsReply }
    let run := (fetch smallPages namesJob namesOfBoth).run Environment.inTurn w
    run.2.requests.map (fun request => (request.path, request.param? "page")) =
        [("/data/a", some "1"), ("/data/a", some "2"), ("/aggr/m/a", some "1")] ∧
      run.1 = .ok ⟨[(.source "a", [[.string "x"], [.string "x"]]), (.aggregation "m" "a", [[.string "x"]])]⟩ := by
  intro w run
  have hpages : ∀ n, (w.server.get n).page? = some ((Stream'.const twoRecords).get n) := fun _ => page?_twoRecordsReply
  have h := fetch_inTurn (by rfl : smallPages.validate = .ok ()) namesJob namesOfBoth rfl hpages
  rw [visits_namesOfBoth] at h
  refine ⟨?_, h.1⟩
  rw [h.2]
  decide

end SeriesExport
