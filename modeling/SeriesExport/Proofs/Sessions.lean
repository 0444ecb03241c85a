import SeriesExport.Proofs.Authorized

/-!
# One session for many operations

Calls of the client, listings and exports share a session and take place one after the other. Each of them has an abort
handle of its own (`Attempt`). Since all of them are authorized (`Operation.authorized_dialogue`), the session is, after
any number of attempts, as it is after what has happened in all of them (`Attempt.session_runAll`). In every state on
the way it is as it is after what has happened so far, but for a refusal that has just come in
(`Attempt.heard_statesAll`).
-/

namespace SeriesExport

variable {σ : Type}

/-! ## Operations -/

/-- What is asked of a server in the name of a session. -/
inductive Operation where
  | call (config : Config) (path : String) (query : Query)
  | listing (config : Config)
  | exporting (config : Config) (job : ExportJob) (tasks : List FetchTask)

/-- Only whether it succeeds is of interest here. -/
def Dialogue.outcome {α : Type} (d : Dialogue (Result α)) : Dialogue (Result Unit) :=
  d.bind fun result => .done (result.map fun _ => ())

theorem Authorized.outcome {α : Type} {d : Dialogue (Result α)} (h : Authorized d) : Authorized d.outcome :=
  h.bind (fun _ => rfl) fun _ => .done nofun

namespace Operation

def dialogue : Operation → Dialogue (Result Unit)
  | .call config path query => (Client.get config path query).outcome
  | .listing config => (Registry.listSources config).outcome
  | .exporting config job tasks => (exportTasks config job tasks).outcome

theorem authorized_dialogue : ∀ operation : Operation, Authorized operation.dialogue
  | .call config path query => (authorized_get config path query).outcome
  | .listing config => (Registry.authorized_listSources config).outcome
  | .exporting config job tasks => (authorized_exportTasks config job tasks).outcome

end Operation

/-- An operation with an abort handle that may be used before it and at any time, and the progress that is shown when
it starts. -/
structure Attempt where
  operation : Operation
  progress : Progress := {}
  cancelled : Bool := false
  aborts : List Event → Bool := fun _ => false

namespace Attempt

variable (answer : σ → Request → Reply × σ)

def environment (attempt : Attempt) : Environment σ := ⟨answer, attempt.aborts⟩

/-- Only the server, the session and what has happened are left of the attempts before. -/
def start (attempt : Attempt) (w : World σ) : World σ :=
  { w with progress := attempt.progress, cancelled := attempt.cancelled }

def run (attempt : Attempt) (w : World σ) : Result Unit × World σ :=
  attempt.operation.dialogue.run (attempt.environment answer) (attempt.start w)

def events (attempt : Attempt) (w : World σ) : List Event :=
  attempt.operation.dialogue.events (attempt.environment answer) (attempt.start w)

def states (attempt : Attempt) (w : World σ) : List (World σ) :=
  attempt.operation.dialogue.worlds (attempt.environment answer) (attempt.start w)

/-- The world after all attempts. -/
def runAll : List Attempt → World σ → World σ
  | [], w => w
  | attempt :: later, w => runAll later (attempt.run answer w).2

/-- The states that all attempts lead the world through. -/
def statesAll : List Attempt → World σ → List (World σ)
  | [], w => [w]
  | attempt :: later, w => attempt.states answer w ++ statesAll later (attempt.run answer w).2

/-! ## What the session hears of them -/

theorem trace_run (attempt : Attempt) (w : World σ) :
    (attempt.run answer w).2.trace = w.trace ++ attempt.events answer w :=
  Dialogue.trace_run (attempt.environment answer) attempt.operation.dialogue (attempt.start w)

theorem session_run (attempt : Attempt) (w : World σ) :
    (attempt.run answer w).2.session = w.session.after (attempt.events answer w) ∧
      w.session.Sends (attempt.events answer w) :=
  attempt.operation.authorized_dialogue.session_run (attempt.environment answer) (attempt.start w)

/-- The session hears of everything that happens in all attempts, and every request has its token. -/
theorem session_runAll : ∀ (attempts : List Attempt) (w : World σ),
    ∃ history, (runAll answer attempts w).trace = w.trace ++ history ∧
      (runAll answer attempts w).session = w.session.after history ∧ w.session.Sends history
  | [], w => ⟨[], (List.append_nil _).symm, rfl, trivial⟩
  | attempt :: later, w => by
    obtain ⟨hsession, hsends⟩ := attempt.session_run answer w
    obtain ⟨history, htrace, hafter, hlater⟩ := session_runAll later (attempt.run answer w).2
    refine ⟨attempt.events answer w ++ history, ?_, ?_, ?_⟩
    · rw [runAll, htrace, trace_run, List.append_assoc]
    · rw [runAll, hafter, hsession, Session.after_append]
    · rw [Session.sends_append, ← hsession]
      exact ⟨hsends, hlater⟩

/-- In every state it has heard of all that has happened, but for a refusal that has just come in. -/
theorem heard_statesAll : ∀ (attempts : List Attempt) {w v : World σ}, v ∈ statesAll answer attempts w → w.Heard v
  | [], _, v, hv => List.mem_singleton.mp hv ▸ .refl v
  | attempt :: later, w, v, hv => by
    rcases List.mem_append.mp hv with hv | hv
    · have hheard : (attempt.start w).Heard v :=
        attempt.operation.authorized_dialogue.heard (attempt.environment answer) hv
      exact hheard
    · exact .trans (attempt.trace_run answer w) (attempt.session_run answer w).1 (heard_statesAll later hv)

/-! ## Refusals in one of them -/

/-- A refusal is the last thing that happens in an attempt, and its result says whether there is one. -/
theorem events_cases (attempt : Attempt) (w : World σ) :
    ((∀ e ∈ attempt.events answer w, e.isRefusal = false) ∧ (attempt.run answer w).1 ≠ .error .unauthorized) ∨
      ∃ front reply, attempt.events answer w = front ++ [.received reply] ∧ (∀ e ∈ front, e.isRefusal = false) ∧
        reply.isRefusal = true ∧ (attempt.run answer w).1 = .error .unauthorized :=
  attempt.operation.authorized_dialogue.events_cases (attempt.environment answer) (attempt.start w)

theorem eq_nil_of_isRefusal (attempt : Attempt) (w : World σ) {front back : List Event} {e : Event}
    (hevents : attempt.events answer w = front ++ e :: back) (he : e.isRefusal = true) : back = [] := by
  rcases attempt.events_cases answer w with ⟨hnone, -⟩ | ⟨before, reply, hlast, hbefore, -, -⟩
  · have hfalse : e.isRefusal = false := hnone e (hevents ▸ List.mem_append_right front List.mem_cons_self)
    rw [he] at hfalse
    cases hfalse
  · rcases List.eq_nil_or_concat' back with hnil | ⟨rest, last, rfl⟩
    · exact hnil
    · -- the refusal would be among the events before the last
      rw [hlast, ← List.cons_append, ← List.append_assoc] at hevents
      obtain ⟨rfl, -⟩ := List.append_inj' hevents rfl
      have hfalse : e.isRefusal = false := hbefore e (List.mem_append_right front List.mem_cons_self)
      rw [he] at hfalse
      cases hfalse

theorem countP_events (attempt : Attempt) (w : World σ) : (attempt.events answer w).countP Event.isRefusal ≤ 1 ∧
    ((attempt.run answer w).1 = .error .unauthorized ↔ (attempt.events answer w).countP Event.isRefusal = 1) := by
  rcases attempt.events_cases answer w with ⟨hnone, hresult⟩ | ⟨before, reply, hlast, hbefore, hreply, hresult⟩
  · have hzero : (attempt.events answer w).countP Event.isRefusal = 0 :=
      List.countP_eq_zero.mpr fun e he => Bool.eq_false_iff.mp (hnone e he)
    rw [hzero]
    exact ⟨Nat.zero_le 1, fun h => absurd h hresult, nofun⟩
  · have hzero : before.countP Event.isRefusal = 0 :=
      List.countP_eq_zero.mpr fun e he => Bool.eq_false_iff.mp (hbefore e he)
    have hone : [Event.received reply].countP Event.isRefusal = 1 := List.countP_cons_of_pos hreply
    rw [hlast, List.countP_append, hzero, hone, Nat.zero_add]
    exact ⟨Nat.le_refl 1, fun _ => rfl, fun _ => hresult⟩

end Attempt

/-- **A session through its whole history.** However many operations share it, and however they end: the requests before
the first refusal have the token that it starts with, and those after it have none. It has counted the refusals in
every state but the ones in which a refusal has just come in, where it has counted those before. In a single operation
a refusal is the last thing that happens; the session is told of it once, and just then the result is that error. -/
theorem session_history (answer : σ → Request → Reply × σ) (server : σ) (token : Option String)
    (attempts : List Attempt) :
    let w : World σ := { server, session := { token } }
    let last := Attempt.runAll answer attempts w
    (∀ (front back : List Event) (request : Request), last.trace = front ++ .sent request :: back →
        request.token = if front.any Event.isRefusal then none else token) ∧
      last.session.refusals = last.trace.countP Event.isRefusal ∧
      (∀ v ∈ Attempt.statesAll answer attempts w, v.session.refusals = v.trace.countP Event.isRefusal ∨
        ∃ front reply, v.trace = front ++ [.received reply] ∧ reply.isRefusal = true ∧
          v.session.refusals = front.countP Event.isRefusal) ∧
      ∀ (attempt : Attempt) (v : World σ),
        let events := attempt.events answer v
        let run := attempt.run answer v
        run.2.trace = v.trace ++ events ∧
          (∀ (front back : List Event) (e : Event), events = front ++ e :: back → e.isRefusal = true → back = []) ∧
          run.2.session.refusals = v.session.refusals + events.countP Event.isRefusal ∧
          events.countP Event.isRefusal ≤ 1 ∧
          (run.1 = .error .unauthorized ↔ events.countP Event.isRefusal = 1) := by
  intro w last
  have hrefusals : ∀ history, (w.session.after history).refusals = history.countP Event.isRefusal := by
    intro history
    rw [Session.refusals_after]
    exact Nat.zero_add _
  obtain ⟨history, htrace, hsession, hsends⟩ := Attempt.session_runAll answer attempts w
  have htrace : last.trace = history := htrace.trans (List.nil_append history)
  refine ⟨fun front back request hsplit => ?_, ?_, fun v hv => ?_, fun attempt v => ?_⟩
  · rw [htrace] at hsplit
    subst hsplit
    rw [hsends.token, Session.token_after]
  · rw [htrace, ← hrefusals]
    exact congrArg Session.refusals hsession
  · obtain ⟨seen, hseen, hheard⟩ := Attempt.heard_statesAll answer attempts hv
    obtain rfl : v.trace = seen := hseen.trans (List.nil_append seen)
    rcases hheard with hheard | ⟨front, reply, hlast, hreply, hheard⟩
    · exact .inl (by rw [hheard, hrefusals])
    · exact .inr ⟨front, reply, hlast, hreply, by rw [hheard, hrefusals]⟩
  · intro events run
    refine ⟨attempt.trace_run answer v, fun front back e => attempt.eq_nil_of_isRefusal answer v, ?_,
      attempt.countP_events answer v⟩
    show (attempt.run answer v).2.session.refusals = _
    rw [(attempt.session_run answer v).1, Session.refusals_after]

/-! ### A ticket that runs out -/

/-- Two calls and a listing. -/
def callsAndListing : List Attempt :=
  [{ operation := .call {} "/a" [] }, { operation := .call {} "/b" [] }, { operation := .listing {} }]

/-- The second reply is a refusal. -/
def refusedOnce : Stream' Reply :=
  .cons (.answered ⟨200, ""⟩) (.cons (.answered ⟨401, ""⟩)
    (.const (.answered ⟨200, "\x7b\"total\":0,\"entries\":[]\x7d"⟩)))

/-- The world after them. -/
def afterwards : World (Stream' Reply) :=
  Attempt.runAll Environment.inTurn.answer callsAndListing
    { server := refusedOnce, session := { token := some "ticket" } }

/-- The first two requests have the ticket, and the third has none. -/
theorem session_history_refusedOnce :
    (∀ (front back : List Event) (request : Request), afterwards.trace = front ++ .sent request :: back →
        request.token = if front.any Event.isRefusal then none else some "ticket") ∧
      afterwards.requests.map Request.token = [some "ticket", some "ticket", none] ∧
      afterwards.session.refusals = 1 := by
  obtain ⟨htokens, hrefusals, -, -⟩ :=
    session_history Environment.inTurn.answer refusedOnce (some "ticket") callsAndListing
  have hcount : afterwards.trace.countP Event.isRefusal = 1 := by cbv
  refine ⟨htokens, by cbv, hrefusals.trans hcount⟩

end SeriesExport
