import SeriesExport.Proofs.Abortable
import SeriesExport.Proofs.Plan
import SeriesExport.Server

/-!
# Aborting a fetch

A fetch heeds the abort handle: so does every page (`abortable_fetchPage`), hence every task (`abortable_fetchPages`)
and the fetch as a whole (`abortable_fetch`).

- It can be aborted at any time, and a partial result never comes out (`fetch_of_abort`).
- If it is aborted while a request is in flight, what becomes of the reply depends on the reply
  (`fetch_of_abort_in_flight`).
-/

namespace SeriesExport

variable {σ α : Type}

/-! ## One page -/

namespace Client

/-- What comes after a call of the client heeds the handle if it passes errors on and looks at the handle again before
it uses the body. -/
theorem abortable_settle {f : Result String → Dialogue (Result α)} (request : Request) (reply : Reply)
    (herror : ∀ cause, f (.error cause) = .done (.error cause))
    (hok : ∀ body, ∃ next, f (.ok body) = .aborted next ∧ next true = .done (.error .aborted) ∧
      Abortable .accepted (next false)) :
    Abortable (.replied request reply) ((settle request reply).bind f) := by
  cases hrefusal : reply.isRefusal with
  | true =>
    have h : (settle request reply).bind f = .refuse (.done (.error .unauthorized)) := by
      rw [settle, if_pos hrefusal, ← herror]
      rfl
    rw [h]
    exact .refused hrefusal
  | false =>
    have h : (settle request reply).bind f = f (verdict request reply) := by
      rw [settle, hrefusal]
      rfl
    rw [h]
    cases hverdict : verdict request reply with
    | error cause =>
      rw [herror]
      exact .failed hrefusal hverdict
    | ok body =>
      obtain ⟨next, hnext, htrue, hfalse⟩ := hok body
      rw [hnext]
      exact .recheck hverdict htrue hfalse

end Client

namespace TaskRun

variable {setting : FetchSetting} {run : TaskRun}

/-- What is done with the outcome of a page ends if the page has failed or has been aborted. -/
structure Ends (f : Outcome run → Dialogue (Result α)) : Prop where
  failed : ∀ page cause, f (.failed page cause) = .done (.error cause)
  aborted : ∀ page discarded, f (.aborted page discarded) = .done (.error .aborted)

theorem abortable_acceptPage (setting : FetchSetting) {f : Outcome run → Dialogue (Result α)}
    (hnext : ∀ later advanced, Abortable (.idle true) (f (.next later advanced)))
    (hdone : ∀ pages total rows, Abortable (.idle true) (f (.done pages total rows))) (page : Page) :
    Abortable .accepted ((run.acceptPage setting page).bind f) := by
  refine .accept ?_
  dsimp only [Dialogue.bind]
  cases ({ run.cursor with total := some page.total } : Cursor).next? with
  | some later => exact hnext _ later.2
  | none => exact hdone _ _ _

theorem abortable_fetchPage (setting : FetchSetting) {f : Outcome run → Dialogue (Result α)} (hends : Ends f)
    (hnext : ∀ later advanced, Abortable (.idle true) (f (.next later advanced)))
    (hdone : ∀ pages total rows, Abortable (.idle true) (f (.done pages total rows))) (b : Bool) :
    Abortable (.idle b) ((run.fetchPage setting).bind f) := by
  rw [fetchPage_eq, Client.get_eq]
  refine .check (hends.aborted _ _) (.token fun token => .ask fun reply => ?_)
  rw [Dialogue.bind_assoc]
  refine Client.abortable_settle _ reply (hends.failed _) fun body => ⟨_, rfl, hends.aborted _ _, ?_⟩
  dsimp only
  cases Page.decode body with
  | error fault =>
    have h : ((Dialogue.done (.failed run.cursor.page (.undecodable fault)) : Dialogue (Outcome run)).bind f) =
        .done (.error (.undecodable fault)) := hends.failed _ _
    rw [h]
    exact .malformed _
  | ok page => exact abortable_acceptPage setting hnext hdone page

/-! ## One task, and all of them -/

theorem abortable_fetchPages (setting : FetchSetting) {f : Result (List Row) → Dialogue (Result α)}
    (herror : ∀ cause, f (.error cause) = .done (.error cause))
    (hok : ∀ rows, Abortable (.idle true) (f (.ok rows))) (run : TaskRun) (b : Bool) :
    Abortable (.idle b) ((run.fetchPages setting).bind f) := by
  rw [fetchPages_eq, Dialogue.bind_assoc]
  refine abortable_fetchPage setting ⟨fun _ cause => herror cause, fun _ _ => herror .aborted⟩
    (fun later advanced => ?_) (fun _ _ rows => hok rows) b
  exact abortable_fetchPages setting herror hok later true
termination_by UInt64.size - run.cursor.page.toNat
decreasing_by
  have := later.cursor.page.toNat_lt_size
  have := UInt64.lt_iff_toNat_lt.mp advanced
  omega

end TaskRun

theorem abortable_fetchTasks (setting : FetchSetting) (all : ℕ) : ∀ (tasks : List FetchTask) (store : RowStore)
    {b : Bool}, (tasks = [] → b = true) → Abortable (.idle b) (fetchTasks setting all tasks store)
  | [], store, b, hb => by
    rw [hb rfl]
    exact .report (.done _)
  | task :: waiting, store, b, _ => by
    rw [fetchTasks_cons]
    have hrest : ∀ rows, Abortable (.idle true) (commitRows setting all task waiting store (.ok rows)) :=
      fun rows => abortable_fetchTasks setting all waiting _ fun _ => rfl
    exact .report (TaskRun.abortable_fetchPages setting (f := commitRows setting all task waiting store)
      (fun _ => rfl) hrest _ b)

/-- A fetch of some tasks waits for a reply before it has a result. -/
theorem abortable_fetch {config : Config} (hconfig : config.validate = .ok ()) (job : ExportJob)
    {tasks : List FetchTask} (htasks : tasks ≠ []) : Abortable (.idle false) (fetch config job tasks) := by
  rw [fetch, hconfig]
  exact abortable_fetchTasks _ _ tasks _ fun h => absurd h htasks

/-- Any fetch heeds the handle. -/
theorem abortable_fetch_idle (config : Config) (job : ExportJob) (tasks : List FetchTask) :
    Abortable (.idle true) (fetch config job tasks) := by
  rw [fetch]
  cases config.validate with
  | error cause => exact .done _
  | ok _ => exact abortable_fetchTasks _ _ tasks _ fun _ => rfl

/-- Unless it is aborted before, a run asks the session for its token, and then for the page that it is at. -/
theorem TaskRun.mem_worlds_fetchPages {setting : FetchSetting} {run : TaskRun} {p : ℕ} (hat : run.At setting p)
    (f : Result (List Row) → Dialogue (Result α)) (env : Environment σ) {w : World σ} (hw : w.cancelled = false) :
    let asked := w.askToken env
    let worlds := ((run.fetchPages setting).bind f).worlds env w
    asked ∈ worlds ∧ asked.record env (.sent (pageRequest setting w.session.token run.task.entity p)) ∈ worlds := by
  intro asked worlds
  show asked ∈ ((run.fetchPages setting).bind f).worlds env w ∧ _ ∈ ((run.fetchPages setting).bind f).worlds env w
  rw [fetchPages_eq, fetchPage_eq, Client.get_eq, ← request_eq hat]
  refine Dialogue.worlds_aborted env _ hw ▸ ?_
  exact ⟨List.mem_cons_of_mem _ List.mem_cons_self,
    List.mem_cons_of_mem _ (List.mem_cons_of_mem _ List.mem_cons_self)⟩

/-- Unless it is aborted before, a fetch asks the session for its token, and then for the first page of its first
task. -/
theorem mem_worlds_fetch {config : Config} (hconfig : config.validate = .ok ()) (job : ExportJob)
    (task : FetchTask) (waiting : List FetchTask) (env : Environment σ) {w : World σ} :
    let setting : FetchSetting := ⟨config, job.range, job.timeFormat⟩
    let started := w.report env (.main (doneFraction (waiting.length + 1) (waiting.length + 1)))
    let asked := started.askToken env
    let worlds := (fetch config job (task :: waiting)).worlds env w
    started.cancelled = false →
      asked ∈ worlds ∧ asked.record env (.sent (pageRequest setting w.session.token task.entity 1)) ∈ worlds := by
  intro setting started asked worlds hstarted
  have hworlds : worlds = (fetchTasks setting (waiting.length + 1) (task :: waiting) {}).worlds env w := by
    show (fetch config job (task :: waiting)).worlds env w = _
    rw [fetch, hconfig]
    rfl
  rw [hworlds, fetchTasks_cons]
  have hmem := TaskRun.mem_worlds_fetchPages (TaskRun.at_start setting task)
    (commitRows setting (waiting.length + 1) task waiting {}) env hstarted
  exact ⟨List.mem_cons_of_mem _ hmem.1, List.mem_cons_of_mem _ hmem.2⟩

/-! ## An abort at any time -/

/-- **A fetch can be aborted at any time.** Never is more than one request in flight, and none is sent once the handle
has been used, but for one: if the handle is used when the session has just been asked for its token, the request that
the token is for is sent, and it is the last. So the requests are the first of those of the fetch without an abort.
There is a result only if the last reply is in before the handle is used, and then it is the result without an abort. -/
theorem fetch_of_abort {config : Config} (hconfig : config.validate = .ok ()) (job : ExportJob)
    {tasks : List FetchTask} (htasks : tasks ≠ []) (env : Environment σ) {w : World σ} (hw : w.inFlight = 0) :
    let d := fetch config job tasks
    let run := d.run env w
    let free := d.run env.quieted w.uncancelled
    (∀ v ∈ d.worlds env w, v.inFlight ≤ 1 ∧ (v.cancelled = true → run.2.requests = v.requests ∨
        v.trace.getLast? = some .tokenAsked ∧ ∃ request, run.2.requests = v.requests ++ [request])) ∧
      run.2.requests <+: free.2.requests ∧
      (∀ store, run.1 = .ok store ↔ free.1 = .ok store ∧
        env.LastReplyInTime w.trace w.cancelled (d.events env.quieted w.uncancelled)) ∧
      (run.1 = free.1 ∨ run.1 = .error .aborted) := by
  intro d run free
  have habortable : Abortable (.idle false) d := abortable_fetch hconfig job htasks
  refine ⟨fun v hv => ⟨Dialogue.inFlight_le_one env _ hw v hv, ?_⟩, ?_, fun store => ?_, ?_⟩
  · exact habortable.silenced (by simp) (by simp) v hv
  · refine World.requests_prefix ?_
    rcases habortable.breaksOff w with ⟨-, htrace, -⟩ | ⟨-, htrace, -⟩
    · exact htrace ▸ List.prefix_rfl
    · exact htrace
  · rw [habortable.run_eq_ok_iff, env.lateReply_eq_false_iff (habortable.exists_reply env rfl w)]
  · rcases habortable.breaksOff w with ⟨hrun, -, -⟩ | ⟨hrun, -, -⟩
    · exact .inl hrun
    · exact .inr hrun

/-- The state in which the first request for the names of both is in flight. -/
def firstInFlight (env : Environment σ) (config : Config) (w : World σ) : World σ :=
  ((w.report env (.main (doneFraction 2 2))).askToken env).record env
    (.sent (pageRequest ⟨config, namesJob.range, namesJob.timeFormat⟩ w.session.token (.source "a") 1))

theorem firstInFlight_mem_worlds {config : Config} (hconfig : config.validate = .ok ()) (env : Environment σ)
    {w : World σ} (hw : (w.report env (.main (doneFraction 2 2))).cancelled = false) :
    firstInFlight env config w ∈ (fetch config namesJob namesOfBoth).worlds env w :=
  (mem_worlds_fetch hconfig namesJob ⟨.source "a", ["n"]⟩ [⟨.aggregation "m" "a", ["n"]⟩] env hw).2

/-- A server that always gives the same reply, and an abort while the first request is in flight. -/
def abortFirst : Environment Reply where
  answer reply _ := (reply, reply)
  aborts history := history.length == 3

/-- The first page comes too late, and nothing more is asked for. -/
theorem fetch_of_abort_namesOfBoth :
    let w : World Reply := { server := twoRecordsReply }
    let run := (fetch smallPages namesJob namesOfBoth).run abortFirst w
    run.2.requests.map (fun request => (request.path, request.param? "page")) = [("/data/a", some "1")] ∧
      run.1 = .error .aborted := by
  intro w run
  have hconfig : smallPages.validate = .ok () := by rfl
  have hsent := firstInFlight_mem_worlds hconfig abortFirst (w := w) (by rfl)
  have hrequests : run.2.requests = (firstInFlight abortFirst smallPages w).requests :=
    (((fetch_of_abort hconfig namesJob (List.cons_ne_nil _ _) abortFirst (by rfl)).1 _ hsent).2 (by rfl)).resolve_right
      fun hasked => by cases hasked.1
  have hlate := (abortable_fetch_idle smallPages namesJob namesOfBoth).run_of_cancelled_in_flight (by rfl) (by rfl)
    (by rfl : _ = [_, _] ++ [_]) hsent
  refine ⟨?_, hlate.1⟩
  rw [hrequests]
  decide

/-! ### What the handle does not stop -/

/-- A server that always gives the same reply, and an abort as soon as the session has been asked for its token. -/
def abortAsked : Environment Reply where
  answer reply _ := (reply, reply)
  aborts history := history.getLast? == some .tokenAsked

/-- Where a server listens on the same machine. -/
def loopback : Listener := ⟨.address 0x7f000001, 8085, .failed .connection⟩

/-- Small pages, from the server that listens there. -/
def loopbackPages : Config := { smallPages with apiUrl := "http://127.0.0.1:8085" }

/-- A server that sends whoever asks for the data of `a` on to those of `b`. -/
def forwarding : Service where
  script := [⟨"/data/a", .answered ⟨100, "HTTP/1.1 307 F\r\nLocation: /data/b\r\nContent-Length: 0\r\n\r\n"⟩, false⟩,
    ⟨"/data/b", twoRecordsReply, false⟩]

/-- Two requests may reach the server after an abort: the one that the session is being asked for its token for, and one
that the answer to the request in flight leads on to. -/
theorem exists_request_after_abort :
    (let d := fetch smallPages namesJob namesOfBoth
     let w : World Reply := { server := twoRecordsReply }
     ∃ v ∈ d.worlds abortAsked w, v.cancelled = true ∧ v.requests = [] ∧
       (d.run abortAsked w).2.requests.map Request.path = ["/data/a"]) ∧
    (let env := Service.environment loopback (forwarding.endsWithArrival loopback 1)
     let d := fetch loopbackPages namesJob namesOfBoth
     let w : World Service := { server := forwarding }
     ∃ v ∈ d.worlds env w, v.cancelled = true ∧ v.requests.map Request.path = ["/data/a"] ∧
       (d.run env w).2.server.arrivals.map (fun wire => String.ofList wire.address.path) = ["/data/a", "/data/b"]) := by
  constructor
  · intro d w
    have hconfig : smallPages.validate = .ok () := by rfl
    obtain ⟨hasked, hsent⟩ := mem_worlds_fetch hconfig namesJob ⟨.source "a", ["n"]⟩
      [⟨.aggregation "m" "a", ["n"]⟩] abortAsked (w := w) (by rfl)
    refine ⟨_, hasked, rfl, rfl, ?_⟩
    obtain ⟨-, htrace, -⟩ := (abortable_fetch_idle smallPages namesJob namesOfBoth).run_of_cancelled_in_flight
      (by rfl) (by rfl) (by rfl : _ = [_, _] ++ [_]) hsent
    rw [World.requests, htrace]
    decide
  · intro env d w
    have hconfig : loopbackPages.validate = .ok () := by rfl
    have hsent := firstInFlight_mem_worlds hconfig env (w := w) (by decide +kernel)
    have hcancelled : (firstInFlight env loopbackPages w).cancelled = true := by decide +kernel
    refine ⟨_, hsent, hcancelled, by decide, ?_⟩
    obtain ⟨-, -, -, hserver⟩ := (abortable_fetch_idle loopbackPages namesJob namesOfBoth).run_of_cancelled_in_flight
      (by rfl) hcancelled (by rfl : _ = [_, _] ++ [_]) hsent
    rw [hserver]
    decide +kernel

/-! ## An abort while a request is in flight -/

/-- **A late reply.** If the handle is used while a request is in flight, the reply to it is the last thing that
happens: nothing is reported or sent after it. The fetch is aborted and leaves the session alone iff the reply is a
success; else it fails with the error that the reply stands for, and a refusal costs the session its token. -/
theorem fetch_of_abort_in_flight (config : Config) (job : ExportJob) (tasks : List FetchTask) (env : Environment σ)
    {w v : World σ} {history : List Event} {request : Request} (hw : w.inFlight = 0)
    (hv : v ∈ (fetch config job tasks).worlds env w) (hcancel : v.cancelled = true)
    (hsent : v.trace = history ++ [.sent request]) :
    let reply := (env.answer v.server request).1
    let run := (fetch config job tasks).run env w
    run.2.trace = v.trace ++ [.received reply] ∧
      run.1 = .error (Client.lateCause request reply) ∧ (run.1 = .error .aborted ↔ reply.isSuccess = true) ∧
      run.2.session = v.session.hear reply ∧ (run.2.session = v.session ↔ reply.isRefusal = false) := by
  intro reply run
  obtain ⟨hcause, htrace, hsession, -⟩ :=
    (abortable_fetch_idle config job tasks).run_of_cancelled_in_flight hw hcancel hsent hv
  refine ⟨htrace, hcause, ?_, hsession, ?_⟩
  · rw [hcause, ← Client.lateCause_eq_aborted_iff request, Except.error.injEq]
  · rw [hsession, Session.hear_eq_self_iff]

/-- A refusal that comes too late is an error all the same, and the session hears of it. -/
theorem fetch_of_abort_in_flight_refused :
    let w : World Reply := { server := .answered ⟨401, ""⟩, session := { token := some "ticket" } }
    let run := (fetch smallPages namesJob namesOfBoth).run abortFirst w
    run.1 = .error .unauthorized ∧ run.2.session = ⟨none, 1⟩ := by
  intro w run
  have hsent := firstInFlight_mem_worlds (by rfl : smallPages.validate = .ok ()) abortFirst (w := w) (by rfl)
  have h := fetch_of_abort_in_flight smallPages namesJob namesOfBoth abortFirst (by rfl) hsent (by rfl)
    (by rfl : _ = [_, _] ++ [_])
  exact ⟨h.2.1, h.2.2.2.1⟩

end SeriesExport
