import SeriesExport.Proofs.Fetching
import SeriesExport.Proofs.Listing

/-!
# What a session hears

A session hears the replies of a history one after the other (`Session.after`): from the first refusal on it has no
token (`token_after`), and it counts the refusals (`refusals_after`).

A dialogue is `Authorized` if each request goes out with the token that the session has then, and a refusal is passed
on to the session and ends the dialogue at once. Whatever the server does and whenever the abort handle is used:

- the session is as it is after what has happened, and every request has its token (`Authorized.session_run`);
- a refusal is the last thing that happens, and the result says whether there is one (`Authorized.events_cases`);
- in every state the session has heard of all replies but a refusal that has just come in (`Authorized.heard`).

A call of the client is authorized (`authorized_get`), and so is what comes after an authorized dialogue and passes its
errors on (`Authorized.bind`). Hence listings and exports are authorized (`Registry.authorized_listSources`,
`authorized_exportTasks`).
-/

namespace SeriesExport

variable {σ α β : Type}

/-! ## Sessions and histories -/

/-- Whether the event is a reply that refuses the session. -/
def Event.isRefusal : Event → Bool
  | .received reply => reply.isRefusal
  | _ => false

namespace Session

/-- The session after an event. -/
def hears (s : Session) : Event → Session
  | .received reply => s.hear reply
  | _ => s

/-- The session after all events of a history. -/
def after (s : Session) (history : List Event) : Session := history.foldl hears s

theorem hears_eq (s : Session) (e : Event) : s.hears e = if e.isRefusal then s.refuse else s := by
  cases e <;> rfl

@[simp] theorem after_cons (s : Session) (e : Event) (history : List Event) :
    s.after (e :: history) = (s.hears e).after history := rfl

theorem after_append (s : Session) (history later : List Event) :
    s.after (history ++ later) = (s.after history).after later :=
  List.foldl_append

/-- A session has no token left after a refusal. -/
theorem token_after (s : Session) (history : List Event) :
    (s.after history).token = if history.any Event.isRefusal then none else s.token := by
  induction history generalizing s with
  | nil => rfl
  | cons e history ih =>
    rw [after_cons, ih, hears_eq, List.any_cons]
    cases e.isRefusal with
    | true => simp [refuse]
    | false => simp

/-- A session counts the refusals. -/
theorem refusals_after (s : Session) (history : List Event) :
    (s.after history).refusals = s.refusals + history.countP Event.isRefusal := by
  induction history generalizing s with
  | nil => rfl
  | cons e history ih =>
    rw [after_cons, ih, hears_eq, List.countP_cons]
    cases e.isRefusal with
    | true =>
      have hrefuse : s.refuse.refusals = s.refusals + 1 := rfl
      simp only [if_true, hrefuse]
      omega
    | false => simp

theorem after_of_forall (s : Session) {history : List Event} (h : ∀ e ∈ history, e.isRefusal = false) :
    s.after history = s := by
  induction history with
  | nil => rfl
  | cons e history ih =>
    rw [after_cons, hears_eq, h e List.mem_cons_self]
    exact ih fun e' he' => h e' (List.mem_cons_of_mem e he')

/-- Every request of the history goes out with the token that the session has then. -/
def Sends : Session → List Event → Prop
  | _, [] => True
  | s, e :: history => (∀ request, e = .sent request → request.token = s.token) ∧ (s.hears e).Sends history

theorem sends_append : ∀ {s : Session} {history later : List Event},
    s.Sends (history ++ later) ↔ s.Sends history ∧ (s.after history).Sends later
  | _, [], _ => ⟨fun h => ⟨trivial, h⟩, fun h => h.2⟩
  | s, e :: history, later => by
    have ih : (s.hears e).Sends (history ++ later) ↔
        (s.hears e).Sends history ∧ ((s.hears e).after history).Sends later := sends_append
    constructor
    · rintro ⟨he, hrest⟩
      obtain ⟨hhistory, hlater⟩ := ih.mp hrest
      exact ⟨⟨he, hhistory⟩, hlater⟩
    · rintro ⟨⟨he, hhistory⟩, hlater⟩
      exact ⟨he, ih.mpr ⟨hhistory, hlater⟩⟩

theorem Sends.token {s : Session} {front back : List Event} {request : Request}
    (h : s.Sends (front ++ .sent request :: back)) : request.token = (s.after front).token :=
  (sends_append.mp h).2.1 request rfl

end Session

/-! ## Dialogues that heed the session -/

/-- A request with the token of the session, and what is done with it and its reply. -/
def Client.call (config : Config) (path : String) (query : Query) (next : Request → Reply → Dialogue α) : Dialogue α :=
  .token fun token => .ask (request config path query token) (next (request config path query token))

theorem Client.get_eq_call (config : Config) (path : String) (query : Query) :
    get config path query = call config path query settle :=
  get_eq config path query

/-- Each request has the token of the session, and a refusal is passed on to the session and ends the dialogue. No
other end looks like a refusal. -/
inductive Authorized : Dialogue (Result α) → Prop
  | done {result : Result α} : result ≠ .error .unauthorized → Authorized (.done result)
  | report {change : Progress.Change} {next : Dialogue (Result α)} :
      Authorized next → Authorized (.report change next)
  | aborted {next : Bool → Dialogue (Result α)} : (∀ b, Authorized (next b)) → Authorized (.aborted next)
  | call {config : Config} {path : String} {query : Query} {next : Request → Reply → Dialogue (Result α)} :
      (∀ request reply, reply.isRefusal = true → next request reply = .refuse (.done (.error .unauthorized))) →
      (∀ request reply, reply.isRefusal = false → Authorized (next request reply)) →
      Authorized (Client.call config path query next)

namespace Authorized

variable {d : Dialogue (Result α)}

/-- What comes after an authorized dialogue is authorized if it passes errors on. -/
theorem bind (h : Authorized d) {f : Result α → Dialogue (Result β)}
    (herror : ∀ cause, f (.error cause) = .done (.error cause)) (hok : ∀ a, Authorized (f (.ok a))) :
    Authorized (d.bind f) := by
  induction h with
  | @done result hresult =>
    cases result with
    | error cause =>
      show Authorized (f (.error cause))
      rw [herror]
      exact .done fun h => hresult (congrArg Except.error (Except.error.inj h))
    | ok a => exact hok a
  | report _ ih => exact .report ih
  | aborted _ ih => exact .aborted ih
  | call hrefusal _ ih =>
    refine .call (fun request reply hreply => ?_) ih
    rw [hrefusal request reply hreply]
    exact congrArg Dialogue.refuse (herror .unauthorized)

/-- The session hears of everything that happens, and every request has its token. -/
theorem session_run (h : Authorized d) (env : Environment σ) (w : World σ) :
    (d.run env w).2.session = w.session.after (d.events env w) ∧ w.session.Sends (d.events env w) := by
  induction h generalizing w with
  | done _ => exact ⟨rfl, trivial⟩
  | @report change _ _ ih =>
    obtain ⟨hsession, hsends⟩ := ih (w.report env change)
    exact ⟨hsession, nofun, hsends⟩
  | aborted _ ih => exact ih w.cancelled w
  | @call config path query next hrefusal hnext ih =>
    let request := Client.request config path query w.session.token
    let reply := (w.call env request).1
    have hsent : ∀ asked, Event.sent request = .sent asked → asked.token = w.session.token := by
      intro asked hasked
      cases hasked
      rfl
    suffices hlater : ((next request reply).run env (w.call env request).2).2.session =
        (w.session.hear reply).after ((next request reply).events env (w.call env request).2) ∧
        (w.session.hear reply).Sends ((next request reply).events env (w.call env request).2) from
      ⟨hlater.1, nofun, hsent, nofun, hlater.2⟩
    cases hreply : reply.isRefusal with
    | true =>
      rw [hrefusal request reply hreply, Session.hear, hreply]
      exact ⟨rfl, trivial⟩
    | false =>
      rw [Session.hear_eq_self_iff.mpr hreply]
      exact ih request reply hreply (w.call env request).2

/-- A refusal is the last thing that happens, and the result says whether there is one. -/
theorem events_cases (h : Authorized d) (env : Environment σ) (w : World σ) :
    ((∀ e ∈ d.events env w, e.isRefusal = false) ∧ (d.run env w).1 ≠ .error .unauthorized) ∨
      ∃ front reply, d.events env w = front ++ [.received reply] ∧ (∀ e ∈ front, e.isRefusal = false) ∧
        reply.isRefusal = true ∧ (d.run env w).1 = .error .unauthorized := by
  induction h generalizing w with
  | done hresult => exact .inl ⟨nofun, hresult⟩
  | @report change next _ ih =>
    have hevents : (Dialogue.report change next).events env w =
        .progressed (w.progress.apply change) :: next.events env (w.report env change) := rfl
    rw [hevents, Dialogue.run_report]
    rcases ih (w.report env change) with ⟨hnone, hresult⟩ | ⟨front, reply, hlast, hfront, hreply, hresult⟩
    · exact .inl ⟨List.forall_mem_cons.mpr ⟨rfl, hnone⟩, hresult⟩
    · exact .inr ⟨_ :: front, reply, by rw [hlast]; rfl, List.forall_mem_cons.mpr ⟨rfl, hfront⟩, hreply, hresult⟩
  | aborted _ ih => exact ih w.cancelled w
  | @call config path query next hrefusal hnext ih =>
    let request := Client.request config path query w.session.token
    let reply := (w.call env request).1
    have hevents : (Client.call config path query next).events env w = .tokenAsked :: .sent request ::
        .received reply :: (next request reply).events env (w.call env request).2 := rfl
    have hrun : (Client.call config path query next).run env w =
        (next request reply).run env (w.call env request).2 := rfl
    rw [hevents, hrun]
    cases hreply : reply.isRefusal with
    | true =>
      rw [hrefusal request reply hreply]
      exact .inr ⟨[.tokenAsked, .sent request], reply, rfl, by simp [Event.isRefusal], hreply, rfl⟩
    | false =>
      have hcalled {history : List Event} (h : ∀ e ∈ history, e.isRefusal = false) :
          ∀ e ∈ .tokenAsked :: .sent request :: .received reply :: history, e.isRefusal = false :=
        List.forall_mem_cons.mpr ⟨rfl, List.forall_mem_cons.mpr ⟨rfl, List.forall_mem_cons.mpr ⟨hreply, h⟩⟩⟩
      rcases ih request reply hreply (w.call env request).2 with
        ⟨hnone, hresult⟩ | ⟨front, last, hlast, hfront, hlastreply, hresult⟩
      · exact .inl ⟨hcalled hnone, hresult⟩
      · exact .inr ⟨.tokenAsked :: .sent request :: .received reply :: front, last, by rw [hlast]; rfl, hcalled hfront,
          hlastreply, hresult⟩

/-- Whoever succeeds has not been refused. -/
theorem session_of_ok (h : Authorized d) {env : Environment σ} {w : World σ} {a : α} (hok : (d.run env w).1 = .ok a) :
    (d.run env w).2.session = w.session := by
  rcases h.events_cases env w with ⟨hnone, -⟩ | ⟨_, _, _, _, _, hresult⟩
  · rw [(h.session_run env w).1, Session.after_of_forall _ hnone]
  · rw [hok] at hresult
    cases hresult

end Authorized

/-! ### States -/

/-- From the state `w` to the state `v` something has happened, and the session has heard of all of it but a refusal
that has just come in. -/
def World.Heard (w v : World σ) : Prop :=
  ∃ history, v.trace = w.trace ++ history ∧ (v.session = w.session.after history ∨
    ∃ front reply, history = front ++ [.received reply] ∧ reply.isRefusal = true ∧ v.session = w.session.after front)

namespace World.Heard

theorem refl (w : World σ) : w.Heard w := ⟨[], (List.append_nil _).symm, .inl rfl⟩

/-- What has happened before has been heard of. -/
theorem trans {u v w : World σ} {history : List Event} (htrace : v.trace = w.trace ++ history)
    (hsession : v.session = w.session.after history) (h : v.Heard u) : w.Heard u := by
  obtain ⟨later, hlater, hheard⟩ := h
  refine ⟨history ++ later, by rw [hlater, htrace, List.append_assoc], ?_⟩
  rcases hheard with hheard | ⟨front, reply, rfl, hreply, hheard⟩
  · left
    rw [hheard, hsession, Session.after_append]
  · right
    refine ⟨history ++ front, reply, (List.append_assoc _ _ _).symm, hreply, ?_⟩
    rw [hheard, hsession, Session.after_append]

end World.Heard

/-- In every state the session has heard of all that has happened, but for a refusal that has just come in. -/
theorem Authorized.heard {d : Dialogue (Result α)} (h : Authorized d) (env : Environment σ) {w v : World σ}
    (hv : v ∈ d.worlds env w) : w.Heard v := by
  induction h generalizing w with
  | done _ =>
    obtain rfl := List.mem_singleton.mp hv
    exact .refl v
  | @report change _ _ ih =>
    rcases List.mem_cons.mp hv with rfl | hv
    · exact .refl v
    · exact .trans (World.trace_report env w change) rfl (ih hv)
  | aborted _ ih => exact ih w.cancelled hv
  | @call config path query next hrefusal hnext ih =>
    let request := Client.request config path query w.session.token
    let reply := (w.call env request).1
    have hcall : (w.call env request).2.trace = w.trace ++ [.tokenAsked, .sent request, .received reply] :=
      World.trace_call env w request
    rcases List.mem_cons.mp hv with rfl | hv
    · exact .refl v
    rcases List.mem_cons.mp hv with rfl | hv
    · exact ⟨[.tokenAsked], rfl, .inl rfl⟩
    rcases List.mem_cons.mp hv with rfl | hv
    · exact ⟨[.tokenAsked, .sent request], List.append_assoc _ _ _, .inl rfl⟩
    have hv : v ∈ (next request reply).worlds env (w.call env request).2 := hv
    cases hreply : reply.isRefusal with
    | true =>
      rw [hrefusal request reply hreply] at hv
      rcases List.mem_cons.mp hv with rfl | hv
      · exact ⟨_, hcall, .inr ⟨[.tokenAsked, .sent request], reply, rfl, hreply, rfl⟩⟩
      · obtain rfl := List.mem_singleton.mp hv
        refine ⟨_, hcall, .inl ?_⟩
        show w.session.refuse = w.session.hear reply
        rw [Session.hear, hreply]
        rfl
    | false =>
      refine .trans hcall ?_ (ih request reply hreply hv)
      show w.session = w.session.hear reply
      exact (Session.hear_eq_self_iff.mpr hreply).symm

/-! ## Calls of the client -/

theorem Client.verdict_ne_unauthorized {request : Request} {reply : Reply} (h : reply.isRefusal = false) :
    verdict request reply ≠ .error .unauthorized := by
  cases reply with
  | failed failure => nofun
  | answered response =>
    have hstatus : response.status ≠ 401 := of_decide_eq_false h
    unfold verdict
    dsimp only
    rw [if_neg hstatus]
    split
    · nofun
    · nofun

theorem authorized_get (config : Config) (path : String) (query : Query) :
    Authorized (Client.get config path query) := by
  rw [Client.get_eq_call]
  refine .call (fun request reply hreply => if_pos hreply) fun request reply hreply => ?_
  rw [Client.settle, hreply]
  exact .done (Client.verdict_ne_unauthorized hreply)

/-! ## Listings and exports -/

theorem Registry.authorized_listFrom (config : Config) (cursor : Cursor) (loaded : List DataSource) :
    Authorized (listFrom config cursor loaded) := by
  rw [listFrom_eq]
  refine (authorized_get config "/registry" _).bind (fun _ => rfl) fun body => ?_
  dsimp only [receive]
  cases RegistryPage.decode body with
  | error fault => exact .done nofun
  | ok page =>
    dsimp only [accept]
    split
    · exact .done nofun
    cases (reported cursor page).next? with
    | none => exact .done nofun
    | some later => exact authorized_listFrom config later.1 (loaded ++ page.entries)
termination_by UInt64.size - cursor.page.toNat
decreasing_by
  have := later.1.page.toNat_lt_size
  have : cursor.page.toNat < later.1.page.toNat := UInt64.lt_iff_toNat_lt.mp later.2
  omega

theorem Registry.authorized_listSources (config : Config) : Authorized (listSources config) := by
  unfold listSources
  cases hvalidate : config.validate with
  | error cause =>
    obtain ⟨flaw, rfl⟩ := Config.eq_invalidConfig_of_validate hvalidate
    exact .done nofun
  | ok _ => exact authorized_listFrom config _ []

theorem TaskRun.authorized_fetchPages (setting : FetchSetting) (run : TaskRun) :
    Authorized (run.fetchPages setting) := by
  rw [fetchPages_eq, fetchPage_eq]
  refine .aborted fun used => ?_
  cases used with
  | true => exact .done nofun
  | false =>
    show Authorized (((Client.get setting.config run.task.entity.path _).bind _).bind _)
    rw [Dialogue.bind_assoc]
    refine (authorized_get setting.config run.task.entity.path _).bind (fun _ => rfl) fun body => ?_
    refine .aborted fun used => ?_
    cases used with
    | true => exact .done nofun
    | false =>
      dsimp only
      cases Page.decode body with
      | error fault => exact .done nofun
      | ok page =>
        refine .report ?_
        dsimp only [Dialogue.bind]
        cases ({ run.cursor with total := some page.total } : Cursor).next? with
        | none => exact .done nofun
        | some later => exact authorized_fetchPages setting ⟨run.task, later.1, run.rowsWith setting page⟩
termination_by UInt64.size - run.cursor.page.toNat
decreasing_by
  have := later.1.page.toNat_lt_size
  have : run.cursor.page.toNat < later.1.page.toNat := UInt64.lt_iff_toNat_lt.mp later.2
  omega

theorem authorized_fetchTasks (setting : FetchSetting) (all : ℕ) : ∀ (tasks : List FetchTask) (store : RowStore),
    Authorized (fetchTasks setting all tasks store)
  | [], _ => .report (.done nofun)
  | task :: waiting, store => by
    rw [fetchTasks_cons]
    refine .report ((TaskRun.authorized_fetchPages setting _).bind (fun _ => rfl) fun rows => ?_)
    exact authorized_fetchTasks setting all waiting (store.commit task.entity rows)

theorem archiveMembers_ne_unauthorized : ∀ written members : List Member,
    archiveMembers written members ≠ .error .unauthorized
  | _, [] => nofun
  | written, member :: members => by
    unfold archiveMembers
    split
    · nofun
    · exact archiveMembers_ne_unauthorized _ members

theorem serialize_ne_unauthorized (store : RowStore) (layout : Layout) :
    serialize store layout ≠ .error .unauthorized := by
  have harchive : ∀ tables, archiveOf tables ≠ .error .unauthorized := by
    intro tables h
    simp only [archiveOf, bind, Except.bind] at h
    split at h
    · next hmembers =>
      obtain rfl := Except.error.inj h
      exact archiveMembers_ne_unauthorized _ _ hmembers
    · cases h
  cases layout with
  | singleFile => nofun
  | perEntity => exact harchive _
  | perAggregation => exact harchive _

theorem authorized_fetch (config : Config) (job : ExportJob) (tasks : List FetchTask) :
    Authorized (fetch config job tasks) := by
  unfold fetch
  cases hvalidate : config.validate with
  | error cause =>
    obtain ⟨flaw, rfl⟩ := Config.eq_invalidConfig_of_validate hvalidate
    exact .done nofun
  | ok _ => exact authorized_fetchTasks _ _ tasks {}

theorem authorized_exportTasks (config : Config) (job : ExportJob) (tasks : List FetchTask) :
    Authorized (exportTasks config job tasks) :=
  (authorized_fetch config job tasks).bind (fun _ => rfl) fun store =>
    .done (serialize_ne_unauthorized store job.layout)

end SeriesExport
