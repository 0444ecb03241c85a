import SeriesExport.Proofs.Paging

/-!
# What a fetch without an abort does

As long as nobody uses the abort handle and the server answers with pages, a fetch does nothing but ask for the pages
of its tasks, one after the other. `World.Moved` says what this does to the world.

- One page: it is accepted (`run_fetchPages`), and the run goes on with the next page (`acceptPage_more`) or is done
  (`acceptPage_last`).
- One task: the requests are those for its pages up to the last one, and the rows are theirs
  (`run_fetchPages_of_pagesFrom`).
- All tasks: the same for a list of tasks with their pages (`run_fetchTasks`), also if there are tasks after them
  (`run_fetchTasks_append`).
-/

namespace SeriesExport

variable {σ : Type} {env : Environment σ} {w v : World σ}

/-! ## Worlds -/

/-- `v` is `w` after requests that were all answered well, with the server in a state `s`. -/
structure World.Moved (w : World σ) (requests : List Request) (s : σ) (v : World σ) : Prop where
  server : v.server = s
  session : v.session = w.session
  cancelled : v.cancelled = false
  requests : v.requests = w.requests ++ requests

namespace World.Moved

variable {requests requests' : List Request} {s s' : σ}

theorem refl (h : w.cancelled = false) : w.Moved [] w.server w := ⟨rfl, rfl, h, by simp⟩

theorem trans {u : World σ} (h : w.Moved requests s v) (h' : v.Moved requests' s' u) :
    w.Moved (requests ++ requests') s' u :=
  ⟨h'.server, h'.session.trans h.session, h'.cancelled, by rw [h'.requests, h.requests, List.append_assoc]⟩

theorem askToken (hquiet : env.Quiet) (h : w.cancelled = false) : w.Moved [] w.server (w.askToken env) where
  server := rfl
  session := rfl
  cancelled := by simp [World.askToken, h, hquiet _]
  requests := by simp

theorem exchange (hquiet : env.Quiet) (h : w.cancelled = false) (request : Request) :
    w.Moved [request] (env.answer w.server request).2 (w.exchange env request).2 where
  server := rfl
  session := rfl
  cancelled := by simp [World.exchange, h, hquiet _]
  requests := by simp

theorem call (hquiet : env.Quiet) (h : w.cancelled = false) (request : Request) :
    w.Moved [request] (env.answer w.server request).2 (w.call env request).2 :=
  (askToken hquiet h).trans (exchange hquiet (askToken hquiet h).cancelled request)

theorem report (hquiet : env.Quiet) (h : w.cancelled = false) (change : Progress.Change) :
    w.Moved [] w.server (w.report env change) where
  server := rfl
  session := rfl
  cancelled := by simp [World.report, h, hquiet _]
  requests := by simp

end World.Moved

/-! ## One page -/

/-- The rows of pages of a task. A page that reports no items has none. -/
def taskRows (setting : FetchSetting) (task : FetchTask) (pages : List Page) : List Row :=
  (pages.filter (·.total ≠ 0)).flatMap fun page =>
    page.records.map (projectRecord task.attributes task.entity.timeKeys setting.timeFormat)

theorem taskRows_append (setting : FetchSetting) (task : FetchTask) (pages pages' : List Page) :
    taskRows setting task (pages ++ pages') = taskRows setting task pages ++ taskRows setting task pages' := by
  simp [taskRows]

theorem taskRows_cons (setting : FetchSetting) (task : FetchTask) (page : Page) (pages : List Page) :
    taskRows setting task (page :: pages) = taskRows setting task [page] ++ taskRows setting task pages :=
  taskRows_append setting task [page] pages

namespace TaskRun

variable {setting : FetchSetting} {run : TaskRun} {p : ℕ} {page : Page}

theorem rowsWith_eq (setting : FetchSetting) (run : TaskRun) (page : Page) :
    run.rowsWith setting page = run.rows ++ taskRows setting run.task [page] := by
  unfold rowsWith taskRows pageRows
  by_cases h : page.total = 0 <;> simp [h]

/-- The run is at page `p` of its entity. -/
structure At (setting : FetchSetting) (p : ℕ) (run : TaskRun) : Prop where
  page : run.cursor.page.toNat = p
  perPage : run.cursor.perPage.toNat = pageSize setting.config run.task.entity

theorem at_start (setting : FetchSetting) (task : FetchTask) :
    At setting 1 (start task (setting.config.perPage task.entity)) :=
  ⟨rfl, toNat_perPage setting.config task.entity⟩

theorem request_eq (hat : run.At setting p) (token : Option String) :
    Client.request setting.config run.task.entity.path (run.query setting) token =
      pageRequest setting token run.task.entity p := by
  simp [Client.request, pageRequest, query, pageQuery, hat.page, hat.perPage]

/-- The run at the page after. -/
def turn (setting : FetchSetting) (run : TaskRun) (page : Page) : TaskRun :=
  ⟨run.task, { run.cursor with total := some page.total }.advance, run.rowsWith setting page⟩

theorem hasMore_iff (hat : run.At setting p) :
    { run.cursor with total := some page.total : Cursor }.hasMore ↔
      p * pageSize setting.config run.task.entity < page.total.toNat := by
  rw [Cursor.hasMore_iff, ← hat.page, ← hat.perPage]
  simp

/-- After a page that is not the last there is a next one, and its number is one more. -/
theorem next?_of_more (hat : run.At setting p) (hk : 0 < pageSize setting.config run.task.entity)
    (hmore : p * pageSize setting.config run.task.entity < page.total.toNat) :
    (run.turn setting page).cursor.page.toNat = p + 1 ∧
      ∃ h, { run.cursor with total := some page.total : Cursor }.next? = some ⟨(run.turn setting page).cursor, h⟩ := by
  have hsize : { run.cursor with total := some page.total : Cursor }.perPage ≠ 0 := by
    intro h0
    rw [← hat.perPage, show run.cursor.perPage = 0 from h0] at hk
    exact Nat.lt_irrefl 0 hk
  have hmore := (hasMore_iff hat).mpr hmore
  exact ⟨(Cursor.toNat_page_advance hsize hmore).trans (congrArg (· + 1) hat.page), Cursor.next?_of_hasMore hsize hmore⟩

theorem At.turn (hat : run.At setting p) (hk : 0 < pageSize setting.config run.task.entity)
    (hmore : p * pageSize setting.config run.task.entity < page.total.toNat) :
    (run.turn setting page).At setting (p + 1) :=
  ⟨(next?_of_more hat hk hmore).1, hat.perPage⟩

/-- What is left to do when the server's answer for a page is in. -/
def receive (setting : FetchSetting) (run : TaskRun) : Result String → Dialogue (Outcome run)
  | .error cause => .done (.failed run.cursor.page cause)
  | .ok body => .aborted fun
    | true => .done run.abort
    | false => match Page.decode body with
      | .error fault => .done (.failed run.cursor.page (.undecodable fault))
      | .ok page => run.acceptPage setting page

theorem fetchPage_eq (setting : FetchSetting) (run : TaskRun) : run.fetchPage setting = .aborted fun
    | true => .done run.abort
    | false => (Client.get setting.config run.task.entity.path (run.query setting)).bind (run.receive setting) := by
  refine congrArg Dialogue.aborted (funext fun b => ?_)
  cases b with
  | true => rfl
  | false =>
    refine congrArg (Dialogue.bind (Client.get setting.config run.task.entity.path _)) (funext fun result => ?_)
    cases result with
    | error cause => rfl
    | ok body =>
      refine congrArg Dialogue.aborted (funext fun b => ?_)
      cases b with
      | true => rfl
      | false =>
        simp only [Dialogue.bind, Bool.false_eq_true, if_false]
        cases Page.decode body <;> rfl

/-- All pages from the run's, by what comes of the first of them. -/
def goOn (setting : FetchSetting) {run : TaskRun} : Outcome run → Dialogue (Result (List Row))
  | .next later _ => later.fetchPages setting
  | .done _ _ rows => .done (.ok rows)
  | .failed _ cause => .done (.error cause)
  | .aborted _ _ => .done (.error .aborted)

theorem fetchPages_eq (setting : FetchSetting) (run : TaskRun) :
    run.fetchPages setting = (run.fetchPage setting).bind (goOn setting) := by
  rw [fetchPages]
  refine congrArg (Dialogue.bind _) (funext fun outcome => ?_)
  cases outcome <;> rfl

/-- The report of progress that a page gives rise to. -/
def pageReport (run : TaskRun) (page : Page) : Progress.Change :=
  .sub { run.cursor with total := some page.total : Cursor }.fraction

theorem acceptPage_more (hat : run.At setting p) (hk : 0 < pageSize setting.config run.task.entity)
    (hmore : p * pageSize setting.config run.task.entity < page.total.toNat) :
    (run.acceptPage setting page).bind (goOn setting) =
      .report (run.pageReport page) ((run.turn setting page).fetchPages setting) := by
  obtain ⟨-, hlt, hnext⟩ := next?_of_more hat hk hmore
  refine congrArg (Dialogue.report _) ?_
  simp only [Dialogue.bind, hnext]
  rfl

theorem acceptPage_last (hat : run.At setting p)
    (hlast : page.total.toNat ≤ p * pageSize setting.config run.task.entity) :
    (run.acceptPage setting page).bind (goOn setting) =
      .report (run.pageReport page) (.done (.ok (run.rowsWith setting page))) := by
  have hnext : ({ run.cursor with total := some page.total } : Cursor).next? = none :=
    Cursor.next?_of_not_hasMore fun h => Nat.not_lt.mpr hlast ((hasMore_iff hat).mp h)
  refine congrArg (Dialogue.report _) ?_
  simp only [Dialogue.bind, hnext]
  rfl

/-- A page that comes in time is accepted. -/
theorem run_fetchPages (hquiet : env.Quiet) (hw : w.cancelled = false) (hat : run.At setting p)
    (hpage : (env.answer w.server (pageRequest setting w.session.token run.task.entity p)).1.page? = some page) :
    (run.fetchPages setting).run env w = ((run.acceptPage setting page).bind (goOn setting)).run env
      (w.call env (pageRequest setting w.session.token run.task.entity p)).2 := by
  obtain ⟨response, hreply, hsuccess, hdecode⟩ := Reply.read?_eq_some_iff.mp hpage
  have hmoved := World.Moved.call hquiet hw (pageRequest setting w.session.token run.task.entity p)
  have hget : (Client.get setting.config run.task.entity.path (run.query setting)).run env w =
      (.ok response.body, (w.call env (pageRequest setting w.session.token run.task.entity p)).2) := by
    rw [Client.run_get]
    simp only [request_eq hat, World.fst_call, hreply, Client.verdict, hsuccess, if_true]
    rw [Session.hear, Reply.isRefusal_of_isSuccess hsuccess]
    rfl
  rw [fetchPages_eq, fetchPage_eq]
  refine (Dialogue.run_aborted env _ hw).trans ?_
  rw [Dialogue.bind_assoc, Dialogue.run_bind, hget]
  refine (Dialogue.run_aborted env _ hmoved.cancelled).trans ?_
  simp only [hdecode]

/-- The last page ends the task. -/
theorem run_fetchPages_last (hquiet : env.Quiet) (hw : w.cancelled = false) (hat : run.At setting p)
    (hpage : (env.answer w.server (pageRequest setting w.session.token run.task.entity p)).1.page? = some page)
    (hlast : page.total.toNat ≤ p * pageSize setting.config run.task.entity) :
    ∃ v, (run.fetchPages setting).run env w = (.ok (run.rows ++ taskRows setting run.task [page]), v) ∧
      w.Moved [pageRequest setting w.session.token run.task.entity p]
        (env.answer w.server (pageRequest setting w.session.token run.task.entity p)).2 v := by
  have hmoved := World.Moved.call hquiet hw (pageRequest setting w.session.token run.task.entity p)
  refine ⟨_, ?_, hmoved.trans (.report hquiet hmoved.cancelled (run.pageReport page))⟩
  rw [run_fetchPages hquiet hw hat hpage, acceptPage_last hat hlast, ← rowsWith_eq]
  rfl

/-! ## One task -/

/-- As long as there are more pages, the run asks for one after the other and keeps their rows. -/
theorem run_fetchPages_of_pagesBefore (hquiet : env.Quiet) {k : ℕ} {pages : List Page} {s : σ}
    (hpages : PagesBefore k p pages) (hk : 0 < k) (hat : run.At setting p)
    (hsize : pageSize setting.config run.task.entity = k) (hw : w.cancelled = false)
    (hserves : env.Serves w.server
      ((List.range' p pages.length).map (pageRequest setting w.session.token run.task.entity)) pages s) :
    ∃ (later : TaskRun) (v : World σ), (run.fetchPages setting).run env w = (later.fetchPages setting).run env v ∧
      later.At setting (p + pages.length) ∧ later.task = run.task ∧
      later.rows = run.rows ++ taskRows setting run.task pages ∧
      w.Moved ((List.range' p pages.length).map (pageRequest setting w.session.token run.task.entity)) s v := by
  induction hpages generalizing run w with
  | nil p =>
    cases hserves
    exact ⟨run, w, rfl, hat, rfl, (List.append_nil run.rows).symm, .refl hw⟩
  | @cons p page pages hmore _ ih =>
    subst hsize
    obtain _ | ⟨hpage, hserves⟩ := hserves
    have hmoved := World.Moved.call hquiet hw (pageRequest setting w.session.token run.task.entity p)
    have hreport := hmoved.trans (.report hquiet hmoved.cancelled (run.pageReport page))
    obtain ⟨later, v, hrun, hlater, htask, hrows, hrest⟩ := ih (hat.turn hk hmore) rfl hreport.cancelled hserves
    refine ⟨later, v, ?_, ?_, htask, ?_, hreport.trans hrest⟩
    · rw [run_fetchPages hquiet hw hat hpage, acceptPage_more hat hk hmore, Dialogue.run_report, hrun]
    · rw [List.length_cons, Nat.add_comm pages.length 1, ← Nat.add_assoc]
      exact hlater
    · rw [hrows, taskRows_cons, ← List.append_assoc, ← rowsWith_eq]
      rfl

/-- The requests are those for the pages of the list, and the rows are theirs. -/
theorem run_fetchPages_of_pagesFrom (hquiet : env.Quiet) {k : ℕ} {pages : List Page} {s : σ}
    (hpages : PagesFrom k p pages) (hk : 0 < k) (hat : run.At setting p)
    (hsize : pageSize setting.config run.task.entity = k) (hw : w.cancelled = false)
    (hserves : env.Serves w.server
      ((List.range' p pages.length).map (pageRequest setting w.session.token run.task.entity)) pages s) :
    ∃ v, (run.fetchPages setting).run env w = (.ok (run.rows ++ taskRows setting run.task pages), v) ∧
      w.Moved ((List.range' p pages.length).map (pageRequest setting w.session.token run.task.entity)) s v := by
  obtain ⟨front, page, rfl, hfront, hlast⟩ := hpages.exists_last
  have hrequests : (List.range' p (front ++ [page]).length).map (pageRequest setting w.session.token run.task.entity) =
      (List.range' p front.length).map (pageRequest setting w.session.token run.task.entity) ++
        [pageRequest setting w.session.token run.task.entity (p + front.length)] := by
    rw [List.length_append, List.length_singleton, List.range'_concat, List.map_append, Nat.one_mul]
    rfl
  rw [hrequests] at hserves ⊢
  obtain ⟨t, hbefore, hafter⟩ := Environment.Serves.split (by simp) hserves
  obtain ⟨later, v, hrun, hlater, htask, hrows, hmoved⟩ :=
    run_fetchPages_of_pagesBefore hquiet hfront hk hat hsize hw hbefore
  obtain _ | ⟨hpage, hnil⟩ := hafter
  cases hnil
  rw [← hmoved.server, ← hmoved.session, ← htask] at hpage
  obtain ⟨u, hend, hlastmoved⟩ := run_fetchPages_last hquiet hmoved.cancelled hlater hpage
    (by rw [htask, hsize]; exact hlast)
  rw [hmoved.server, hmoved.session, htask] at hlastmoved
  refine ⟨u, ?_, hmoved.trans hlastmoved⟩
  rw [hrun, hend, hrows, htask, taskRows_append, List.append_assoc]

end TaskRun

/-! ## All tasks -/

/-- The requests for the pages of a task. -/
def visitRequests (setting : FetchSetting) (token : Option String) (visit : FetchTask × List Page) : List Request :=
  (List.range' 1 visit.2.length).map (pageRequest setting token visit.1.entity)

/-- The rows of tasks are committed in the order of the tasks. -/
def commitVisits (setting : FetchSetting) (store : RowStore) (visits : List (FetchTask × List Page)) : RowStore :=
  visits.foldl (fun store visit => store.commit visit.1.entity (taskRows setting visit.1 visit.2)) store

theorem length_visitRequests (setting : FetchSetting) (token : Option String) (visit : FetchTask × List Page) :
    (visitRequests setting token visit).length = visit.2.length := by
  simp [visitRequests]

/-- What is left to do when the rows of a task are in. -/
def commitRows (setting : FetchSetting) (all : ℕ) (task : FetchTask) (waiting : List FetchTask) (store : RowStore) :
    Result (List Row) → Dialogue (Result RowStore)
  | .ok rows => fetchTasks setting all waiting (store.commit task.entity rows)
  | .error cause => .done (.error cause)

theorem fetchTasks_cons (setting : FetchSetting) (all : ℕ) (task : FetchTask) (waiting : List FetchTask)
    (store : RowStore) : fetchTasks setting all (task :: waiting) store =
      .report (.main (doneFraction (waiting.length + 1) all))
        (((TaskRun.start task (setting.config.perPage task.entity)).fetchPages setting).bind
          (commitRows setting all task waiting store)) := by
  refine congrArg (Dialogue.report _) ?_
  refine congrArg (Dialogue.bind (TaskRun.fetchPages setting _)) (funext fun result => ?_)
  cases result <;> rfl

/-- Tasks whose pages come in are done before the tasks after them. -/
theorem run_fetchTasks_append (hquiet : env.Quiet) {setting : FetchSetting} (all : ℕ)
    (hsize : ∀ entity, 0 < pageSize setting.config entity) (waiting : List FetchTask) :
    ∀ (visits : List (FetchTask × List Page)) (store : RowStore) {w : World σ} {s : σ}, w.cancelled = false →
    (∀ visit ∈ visits, PagesFrom (pageSize setting.config visit.1.entity) 1 visit.2) →
    env.Serves w.server (visits.flatMap (visitRequests setting w.session.token)) (visits.flatMap Prod.snd) s →
      ∃ v, (fetchTasks setting all (visits.map Prod.fst ++ waiting) store).run env w =
          (fetchTasks setting all waiting (commitVisits setting store visits)).run env v ∧
        w.Moved (visits.flatMap (visitRequests setting w.session.token)) s v
  | [], store, w, _, hw, _, .nil _ => ⟨w, rfl, .refl hw⟩
  | (task, pages) :: visits, store, w, s, hw, hpages, hserves => by
    obtain ⟨t, hfront, hback⟩ :=
      Environment.Serves.split (length_visitRequests setting w.session.token (task, pages)) hserves
    have hstart := World.Moved.report hquiet hw
      (.main (doneFraction ((visits.map Prod.fst ++ waiting).length + 1) all))
    obtain ⟨u, hrun, htask⟩ := TaskRun.run_fetchPages_of_pagesFrom hquiet (hpages _ List.mem_cons_self)
      (hsize task.entity) (TaskRun.at_start setting task) rfl hstart.cancelled hfront
    have hmoved := hstart.trans htask
    obtain ⟨v, hrest, htasks⟩ := run_fetchTasks_append hquiet all hsize waiting visits
      (store.commit task.entity (taskRows setting task pages)) hmoved.cancelled
      (fun visit hvisit => hpages visit (List.mem_cons_of_mem _ hvisit))
      (by rw [hmoved.server, hmoved.session]; exact hback)
    rw [hmoved.session] at htasks
    refine ⟨v, ?_, hmoved.trans htasks⟩
    rw [List.map_cons, List.cons_append, fetchTasks_cons, Dialogue.run_report, Dialogue.run_bind, hrun]
    exact hrest

theorem run_fetchTasks (hquiet : env.Quiet) {setting : FetchSetting} (all : ℕ)
    (hsize : ∀ entity, 0 < pageSize setting.config entity) (visits : List (FetchTask × List Page))
    (store : RowStore) {w : World σ} {s : σ} (hw : w.cancelled = false)
    (hpages : ∀ visit ∈ visits, PagesFrom (pageSize setting.config visit.1.entity) 1 visit.2)
    (hserves : env.Serves w.server (visits.flatMap (visitRequests setting w.session.token))
      (visits.flatMap Prod.snd) s) :
    ∃ v, (fetchTasks setting all (visits.map Prod.fst) store).run env w =
        (.ok (commitVisits setting store visits), v) ∧
      w.Moved (visits.flatMap (visitRequests setting w.session.token)) s v := by
  obtain ⟨v, hrun, hmoved⟩ := run_fetchTasks_append hquiet all hsize [] visits store hw hpages hserves
  rw [List.append_nil] at hrun
  have hend := hmoved.trans (.report hquiet hmoved.cancelled (.main (doneFraction 0 all)))
  rw [List.append_nil, hmoved.server] at hend
  exact ⟨_, hrun, hend⟩

end SeriesExport
