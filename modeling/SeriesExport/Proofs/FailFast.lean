import SeriesExport.Proofs.Plan
import SeriesExport.Proofs.Verdicts

/-!
# An export fails at the first fault

A reply that is no page has one fault (`Reply.Fault`): it did not come at all, its status is not a success, or its body
is no page. The first such reply ends a task with its fault (`TaskRun.run_fetchPages_of_pagesBefore_of_fault`) and all
tasks with it (`run_fetchTasks_of_fault`). The replies before it decide which of the planned requests it answers
(`exists_task_of_lt_planLength`), and an export sends the plan up to this request and has no other result than the
fault (`exportTasks_of_fault`).
-/

namespace SeriesExport

/-! ## Faults of replies -/

/-- What is wrong with the reply to a request for a page: its outcome is an error, or a body that is no page. -/
inductive Reply.Fault (request : Request) (reply : Reply) : ExportError → Prop
  | failed {before after : Session} {cause : ExportError} :
      Client.Outcome request before reply (.error cause) after → Fault request reply cause
  | malformed {before after : Session} {body : String} {fault : Json.Fault} :
      Client.Outcome request before reply (.ok body) after → Page.decode body = .error fault →
      Fault request reply (.undecodable fault)

/-- What the client makes of a reply with a fault: the fault, unless the body is at fault. -/
theorem Reply.fault_iff {request : Request} {reply : Reply} {cause : ExportError} :
    reply.Fault request cause ↔ Client.verdict request reply = .error cause ∨
      ∃ body fault, Client.verdict request reply = .ok body ∧ Page.decode body = .error fault ∧
        cause = .undecodable fault := by
  constructor
  · rintro (houtcome | ⟨houtcome, hdecode⟩)
    · exact .inl houtcome.eq_verdict.1
    · exact .inr ⟨_, _, houtcome.eq_verdict.1, hdecode, rfl⟩
  · have houtcome := Client.outcome_verdict request {} reply
    rintro (hverdict | ⟨body, fault, hverdict, hdecode, rfl⟩)
    · exact .failed (hverdict ▸ houtcome)
    · exact .malformed (hverdict ▸ houtcome) hdecode

/-- There is only one fault. -/
theorem Reply.Fault.unique {request : Request} {reply : Reply} {cause cause' : ExportError}
    (h : reply.Fault request cause) (h' : reply.Fault request cause') : cause = cause' := by
  rcases fault_iff.mp h with hverdict | ⟨body, fault, hverdict, hdecode, rfl⟩ <;>
    rcases fault_iff.mp h' with hverdict' | ⟨body', fault', hverdict', hdecode', rfl⟩ <;>
    rw [hverdict] at hverdict' <;> cases hverdict'
  · rfl
  · rw [hdecode] at hdecode'
    rw [Except.error.inj hdecode']

/-- A reply without a page has a fault. -/
theorem Reply.exists_fault {reply : Reply} (request : Request) (h : reply.page? = none) :
    ∃ cause, reply.Fault request cause := by
  rcases Client.verdict_of_read?_eq_none h request with ⟨cause, hverdict⟩ | ⟨body, fault, hverdict, hdecode⟩
  · exact ⟨cause, fault_iff.mpr (.inl hverdict)⟩
  · exact ⟨.undecodable fault, fault_iff.mpr (.inr ⟨body, fault, hverdict, hdecode, rfl⟩)⟩

/-! ## The request that fails -/

section

variable {σ : Type} {env : Environment σ} {w : World σ} {setting : FetchSetting}

/-- A reply with a fault ends the task. -/
theorem TaskRun.run_fetchPages_of_fault (hquiet : env.Quiet) {run : TaskRun} {p : ℕ} {cause : ExportError}
    (hw : w.cancelled = false) (hat : run.At setting p)
    (hfault : (env.answer w.server (pageRequest setting w.session.token run.task.entity p)).1.Fault
      (pageRequest setting w.session.token run.task.entity p) cause) :
    ∃ v, (run.fetchPages setting).run env w = (.error cause, v) ∧
      v.requests = w.requests ++ [pageRequest setting w.session.token run.task.entity p] := by
  let request := pageRequest setting w.session.token run.task.entity p
  let v : World σ := { (w.call env request).2 with session := w.session.hear (w.call env request).1 }
  have hget : (Client.get setting.config run.task.entity.path (run.query setting)).run env w =
      (Client.verdict request (env.answer w.server request).1, v) := by
    rw [Client.run_get]
    simp only [request_eq hat]
    rfl
  have hv : v.cancelled = false := (World.Moved.call hquiet hw request).cancelled
  refine ⟨v, ?_, World.requests_call env w request⟩
  rw [fetchPages_eq, fetchPage_eq]
  refine (Dialogue.run_aborted env _ hw).trans ?_
  rw [Dialogue.bind_assoc, Dialogue.run_bind, hget]
  rcases Reply.fault_iff.mp hfault with hverdict | ⟨body, fault, hverdict, hdecode, rfl⟩
  · rw [hverdict]
    rfl
  · rw [hverdict]
    refine (Dialogue.run_aborted env _ hv).trans ?_
    simp only [hdecode]
    rfl

/-- If the pages before have pages after them, the requests are those up to the one whose reply has a fault. -/
theorem TaskRun.run_fetchPages_of_pagesBefore_of_fault (hquiet : env.Quiet) {run : TaskRun} {p : ℕ} {pages : List Page}
    {s : σ} {cause : ExportError} (hpages : PagesBefore (pageSize setting.config run.task.entity) p pages)
    (hk : 0 < pageSize setting.config run.task.entity) (hat : run.At setting p) (hw : w.cancelled = false)
    (hserves : env.Serves w.server
      ((List.range' p pages.length).map (pageRequest setting w.session.token run.task.entity)) pages s)
    (hfault : (env.answer s (pageRequest setting w.session.token run.task.entity (p + pages.length))).1.Fault
      (pageRequest setting w.session.token run.task.entity (p + pages.length)) cause) :
    ∃ v, (run.fetchPages setting).run env w = (.error cause, v) ∧ v.requests = w.requests ++
      (List.range' p (pages.length + 1)).map (pageRequest setting w.session.token run.task.entity) := by
  obtain ⟨later, u, hrun, hlater, htask, -, hmoved⟩ := run_fetchPages_of_pagesBefore hquiet hpages hk hat rfl hw hserves
  rw [← hmoved.server, ← hmoved.session, ← htask] at hfault
  obtain ⟨v, hend, hrequests⟩ := run_fetchPages_of_fault hquiet hmoved.cancelled hlater hfault
  refine ⟨v, hrun.trans hend, ?_⟩
  rw [hrequests, hmoved.requests, hmoved.session, htask, List.range'_concat, List.map_append, List.append_assoc,
    Nat.one_mul]
  rfl

end

/-! ## Which request of the plan it is -/

/-- The number of requests for all pages of the tasks. -/
noncomputable def planLength (config : Config) (tasks : List FetchTask) (pages : Stream' Page) : ℕ :=
  ((visits config tasks pages).flatMap Prod.snd).length

theorem planLength_cons (config : Config) (task : FetchTask) (tasks : List FetchTask) (pages : Stream' Page) :
    planLength config (task :: tasks) pages = lastPage (pageSize config task.entity) pages +
      planLength config tasks (pages.drop (lastPage (pageSize config task.entity) pages)) := by
  rw [planLength, visits, List.flatMap_cons, List.length_append, Stream'.length_take]
  rfl

/-- Later tasks get the pages that are left by those before. -/
theorem visits_append (config : Config) : ∀ (front rest : List FetchTask) (pages : Stream' Page),
    visits config (front ++ rest) pages =
      visits config front pages ++ visits config rest (pages.drop (planLength config front pages))
  | [], _, _ => rfl
  | task :: front, rest, pages => by
    have ih := visits_append config front rest (pages.drop (lastPage (pageSize config task.entity) pages))
    rw [Stream'.drop_drop, ← planLength_cons] at ih
    rw [List.cons_append, visits, ih]
    rfl

/-- Every request of the plan is for a page of some task. -/
theorem exists_task_of_lt_planLength (config : Config) : ∀ (tasks : List FetchTask) (pages : Stream' Page) {j : ℕ},
    j < planLength config tasks pages → ∃ front task waiting n, tasks = front ++ task :: waiting ∧
      j = planLength config front pages + n ∧
      n < lastPage (pageSize config task.entity) (pages.drop (planLength config front pages))
  | [], _, j, h => absurd h (Nat.not_lt_zero j)
  | task :: tasks, pages, j, h => by
    by_cases hj : j < lastPage (pageSize config task.entity) pages
    · exact ⟨[], task, tasks, j, rfl, (Nat.zero_add j).symm, hj⟩
    · rw [planLength_cons] at h
      obtain ⟨front, later, waiting, n, rfl, hn, hlater⟩ := exists_task_of_lt_planLength config tasks
        (pages.drop (lastPage (pageSize config task.entity) pages))
        (j := j - lastPage (pageSize config task.entity) pages) (by omega)
      rw [Stream'.drop_drop, ← planLength_cons] at hlater
      refine ⟨task :: front, later, waiting, n, rfl, ?_, hlater⟩
      rw [planLength_cons]
      omega

/-- The first requests of a task, after all requests of the tasks before. -/
theorem take_flatMap_visitRequests (setting : FetchSetting) (token : Option String) (front : List FetchTask)
    (task : FetchTask) (waiting : List FetchTask) {pages : Stream' Page} {n : ℕ}
    (hn : n < lastPage (pageSize setting.config task.entity) (pages.drop (planLength setting.config front pages))) :
    ((visits setting.config (front ++ task :: waiting) pages).flatMap (visitRequests setting token)).take
        (planLength setting.config front pages + (n + 1)) =
      (visits setting.config front pages).flatMap (visitRequests setting token) ++
        (List.range' 1 (n + 1)).map (pageRequest setting token task.entity) := by
  have hfront : ((visits setting.config front pages).flatMap (visitRequests setting token)).length =
      planLength setting.config front pages := length_flatMap_visitRequests setting token _
  have htask : n + 1 ≤ (visitRequests setting token (task, (pages.drop (planLength setting.config front pages)).take
      (lastPage (pageSize setting.config task.entity)
        (pages.drop (planLength setting.config front pages))))).length := by
    rw [length_visitRequests, Stream'.length_take]
    exact hn
  rw [visits_append, List.flatMap_append, ← hfront, List.take_length_add_append, visits, List.flatMap_cons, hfront,
    List.take_append_of_le_length htask, visitRequests, ← List.map_take, Stream'.length_take,
    List.take_range'_of_length_ge hn]

theorem getElem?_flatMap_visitRequests (setting : FetchSetting) (token : Option String) (front : List FetchTask)
    (task : FetchTask) (waiting : List FetchTask) {pages : Stream' Page} {n : ℕ}
    (hn : n < lastPage (pageSize setting.config task.entity) (pages.drop (planLength setting.config front pages))) :
    ((visits setting.config (front ++ task :: waiting) pages).flatMap (visitRequests setting token))[
        planLength setting.config front pages + n]? = some (pageRequest setting token task.entity (1 + n)) := by
  have hfront : ((visits setting.config front pages).flatMap (visitRequests setting token)).length =
      planLength setting.config front pages := length_flatMap_visitRequests setting token _
  have hlt : planLength setting.config front pages + n < planLength setting.config front pages + (n + 1) := by omega
  rw [← List.getElem?_take_of_lt hlt, take_flatMap_visitRequests setting token front task waiting hn,
    List.getElem?_append_right (by omega), hfront, Nat.add_sub_cancel_left, List.getElem?_map,
    List.getElem?_range' (Nat.lt_succ_self n), Nat.one_mul]
  rfl

/-! ## The whole export -/

/-- The tasks before the fault are done, and their rows are lost. -/
theorem run_fetchTasks_of_fault {setting : FetchSetting} (all : ℕ)
    (hsize : ∀ entity, 0 < pageSize setting.config entity) (front : List FetchTask) (task : FetchTask)
    (waiting : List FetchTask) {w : World (Stream' Reply)} (hw : w.cancelled = false) {pages : Stream' Page} {n : ℕ} {cause : ExportError}
    (hn : n < lastPage (pageSize setting.config task.entity) (pages.drop (planLength setting.config front pages)))
    (hpages : ∀ i < planLength setting.config front pages + n, (w.server.get i).page? = some (pages.get i))
    (hcause : (w.server.get (planLength setting.config front pages + n)).Fault
      (pageRequest setting w.session.token task.entity (1 + n)) cause) :
    ∃ v, (fetchTasks setting all (front ++ task :: waiting) {}).run Environment.inTurn w = (.error cause, v) ∧
      v.requests = w.requests ++ (visits setting.config front pages).flatMap (visitRequests setting w.session.token) ++
        (List.range' 1 (n + 1)).map (pageRequest setting w.session.token task.entity) := by
  have hlength : ((visits setting.config front pages).flatMap (visitRequests setting w.session.token)).length =
      planLength setting.config front pages := length_flatMap_visitRequests setting w.session.token _
  have hserves := Environment.serves_inTurn_of_lt
    ((visits setting.config front pages).flatMap (visitRequests setting w.session.token))
    fun i hi => hpages i (by omega)
  rw [hlength, planLength, ← flatMap_snd_visits, ← planLength] at hserves
  obtain ⟨u, hrun, hmoved⟩ := run_fetchTasks_append Environment.quiet_inTurn all hsize (task :: waiting)
    (visits setting.config front pages) {} hw (pagesFrom_visits hsize front pages) hserves
  rw [map_fst_visits] at hrun
  let m := planLength setting.config front pages
  have hstart := hmoved.trans
    (.report Environment.quiet_inTurn hmoved.cancelled (.main (doneFraction (waiting.length + 1) all)))
  rw [List.append_nil, hmoved.server] at hstart
  have hlater : ∀ i < ((List.range' 1 n).map (pageRequest setting w.session.token task.entity)).length,
      ((w.server.drop m).get i).page? = some ((pages.drop m).get i) := by
    intro i hi
    rw [List.length_map, List.length_range'] at hi
    rw [Stream'.get_drop, Stream'.get_drop]
    exact hpages _ (Nat.add_lt_add_left hi m)
  have hbefore := Environment.serves_inTurn_of_lt _ hlater
  rw [List.length_map, List.length_range'] at hbefore
  have htake : ((pages.drop m).take n).length = n := Stream'.length_take _ _
  obtain ⟨v, hend, hrequests⟩ := TaskRun.run_fetchPages_of_pagesBefore_of_fault Environment.quiet_inTurn
    (pagesBefore_take_of_lt hn) (hsize task.entity) (TaskRun.at_start setting task) hstart.cancelled
    (by rw [hstart.server, hstart.session, htake]; exact hbefore)
    (by
      rw [htake, hstart.session]
      have hhead : ((w.server.drop m).drop n).head = w.server.get (m + n) := by
        rw [Stream'.drop_drop, Stream'.head, Stream'.get_drop, Nat.add_zero]
      exact hhead ▸ hcause)
  refine ⟨v, ?_, ?_⟩
  · rw [hrun, fetchTasks_cons, Dialogue.run_report, Dialogue.run_bind, hend]
    rfl
  · rw [hrequests, hstart.requests, hstart.session, htake]
    rfl

/-- An export fetches, and then puts what it has fetched into a file. -/
theorem run_exportTasks {σ : Type} (env : Environment σ) (config : Config) (job : ExportJob) (tasks : List FetchTask)
    (w : World σ) : (exportTasks config job tasks).run env w =
      (((fetch config job tasks).run env w).1.bind (serialize · job.layout),
        ((fetch config job tasks).run env w).2) := by
  refine (Dialogue.run_bind env _ (fetch config job tasks) w).trans ?_
  cases ((fetch config job tasks).run env w).1 <;> rfl

/-- **An export fails at the first fault.** If the replies before are pages and the reply to some request of the plan is
none, the requests are those of the plan up to this one, and there is no result but an error, the fault of the reply. -/
theorem exportTasks_of_fault {config : Config} (hconfig : config.validate = .ok ()) (job : ExportJob)
    (tasks : List FetchTask) {w : World (Stream' Reply)} (hw : w.cancelled = false) {pages : Stream' Page} {j : ℕ}
    (hpages : ∀ n < j, (w.server.get n).page? = some (pages.get n)) (hfault : (w.server.get j).page? = none) :
    let plan := (visits config tasks pages).flatMap
      (visitRequests ⟨config, job.range, job.timeFormat⟩ w.session.token)
    let run := (exportTasks config job tasks).run Environment.inTurn w
    ∀ request, plan[j]? = some request → (∃ cause, run.1 = .error cause) ∧
      (∀ cause, run.1 = .error cause ↔ (w.server.get j).Fault request cause) ∧
      run.2.requests = w.requests ++ plan.take (j + 1) := by
  intro plan run request hrequest
  let setting : FetchSetting := ⟨config, job.range, job.timeFormat⟩
  obtain ⟨cause, hcause⟩ := Reply.exists_fault request hfault
  have hj : j < planLength config tasks pages := by
    rw [planLength, ← length_flatMap_visitRequests setting w.session.token]
    exact (List.getElem?_eq_some_iff.mp hrequest).1
  obtain ⟨front, task, waiting, n, rfl, rfl, hn⟩ := exists_task_of_lt_planLength config tasks pages hj
  obtain rfl : pageRequest setting w.session.token task.entity (1 + n) = request := Option.some.inj
    ((getElem?_flatMap_visitRequests setting w.session.token front task waiting hn).symm.trans hrequest)
  have hsize : ∀ entity, 0 < pageSize setting.config entity := pageSize_pos hconfig
  obtain ⟨v, hrun, hrequests⟩ :=
    run_fetchTasks_of_fault (front ++ task :: waiting).length hsize front task waiting hw hn hpages hcause
  have hexport : run = (.error cause, v) := by
    show (exportTasks config job (front ++ task :: waiting)).run _ w = _
    rw [run_exportTasks, fetch, hconfig]
    dsimp only
    rw [hrun]
    rfl
  rw [hexport]
  refine ⟨⟨cause, rfl⟩, fun cause' => ⟨fun h => Except.error.inj h ▸ hcause, fun h => ?_⟩, ?_⟩
  · rw [hcause.unique h]
  · rw [hrequests, List.append_assoc]
    exact congrArg (w.requests ++ ·)
      (take_flatMap_visitRequests setting w.session.token front task waiting hn).symm

/-- Two pages, and then one reply for everything. -/
def twoPagesThen (reply : Reply) : Stream' Reply := .cons twoRecordsReply (.cons twoRecordsReply (.const reply))

theorem page?_twoPagesThen (reply : Reply) {n : ℕ} (hn : n < 2) :
    ((twoPagesThen reply).get n).page? = some ((Stream'.const twoRecords).get n) := by
  obtain rfl | rfl : n = 0 ∨ n = 1 := by omega
  · exact page?_twoRecordsReply
  · exact page?_twoRecordsReply

/-- The request for the aggregation after the two for the source. -/
def requestForNames : Request :=
  pageRequest ⟨smallPages, namesJob.range, namesJob.timeFormat⟩ none (.aggregation "m" "a") 1

theorem fault_explained :
    Reply.Fault requestForNames (.answered ⟨503, "\x7b\"message\":\"down\"\x7d"⟩) (.rejected 503 "down") :=
  .failed (.explained (s := {}) (by decide) (by decide) (Client.serverMessage?_eq_some_iff.mp (by cbv)))

theorem fault_unexplained : Reply.Fault requestForNames (.answered ⟨404, "[]"⟩)
    (.rejected 404 "Request could not be initialized.\n/aggr/m/a?start=&end=&per_page=2&page=1") := by
  have htext : "Request could not be initialized.\n/aggr/m/a?start=&end=&per_page=2&page=1" =
      Client.genericMessage ++ "\n" ++ requestForNames.pathAndQuery := by cbv
  have hnone : Client.serverMessage? "[]" = none := by cbv
  rw [htext]
  refine .failed (.unexplained (s := {}) (by decide) (by decide) fun message hexplains => ?_)
  rw [Client.serverMessage?_eq_some_iff.mpr hexplains] at hnone
  cases hnone

theorem fault_cutOff : Reply.Fault requestForNames (.answered ⟨200, "\x7b"⟩) (.undecodable .malformed) :=
  .malformed (.success (s := {}) status_ok.1 status_ok.2) (by cbv)

/-- The rows of the source are in when the request for the aggregation fails: with a message of the server, with a body
that explains nothing, or with a body that is cut off. -/
theorem exportTasks_of_fault_thirdReply :
    let run (reply : Reply) :=
      (exportTasks smallPages namesJob namesOfBoth).run Environment.inTurn { server := twoPagesThen reply }
    let down : Reply := .answered ⟨503, "\x7b\"message\":\"down\"\x7d"⟩
    let missing : Reply := .answered ⟨404, "[]"⟩
    let cut : Reply := .answered ⟨200, "\x7b"⟩
    (run down).1 = .error (.rejected 503 "down") ∧
      (run missing).1 = .error (.rejected 404
        "Request could not be initialized.\n/aggr/m/a?start=&end=&per_page=2&page=1") ∧
      (run cut).1 = .error (.undecodable .malformed) ∧
      ∀ reply ∈ [down, missing, cut],
        (run reply).2.requests.map (fun request => (request.path, request.param? "page")) =
          [("/data/a", some "1"), ("/data/a", some "2"), ("/aggr/m/a", some "1")] := by
  intro run down missing cut
  have hfails (reply : Reply) (hfault : reply.page? = none) :
      (∀ cause, reply.Fault requestForNames cause → (run reply).1 = .error cause) ∧
        (run reply).2.requests.map (fun request => (request.path, request.param? "page")) =
          [("/data/a", some "1"), ("/data/a", some "2"), ("/aggr/m/a", some "1")] := by
    let w : World (Stream' Reply) := { server := twoPagesThen reply }
    have hthird : (w.server.get 2).page? = none := hfault
    obtain ⟨-, hcause, hrequests⟩ := exportTasks_of_fault (by rfl : smallPages.validate = .ok ()) namesJob
      namesOfBoth (w := w) rfl (fun _ => page?_twoPagesThen reply) hthird requestForNames
      (by rw [visits_namesOfBoth]; rfl)
    refine ⟨fun cause => (hcause cause).mpr, ?_⟩
    rw [hrequests, visits_namesOfBoth]
    rfl
  have hdown := hfails down (by cbv)
  have hmissing := hfails missing (by cbv)
  have hcut := hfails cut (by cbv)
  refine ⟨hdown.1 _ fault_explained, hmissing.1 _ fault_unexplained, hcut.1 _ fault_cutOff, ?_⟩
  rw [List.forall_mem_cons, List.forall_mem_cons, List.forall_mem_singleton]
  exact ⟨hdown.2, hmissing.2, hcut.2⟩

end SeriesExport
