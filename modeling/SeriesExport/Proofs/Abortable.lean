import SeriesExport.Proofs.Client
import SeriesExport.Proofs.LateReply

/-!
# Dialogues that heed the abort handle

A dialogue is `Abortable` if it looks at the abort handle before it asks the session for the token of a request, and
again when the reply to the request is in, and ends at once when it finds the handle used. Only a reply that is an error
ends it without the second look. `Stage` says how far it is in this.

Whatever the server does and whenever the handle is used:

- once the handle has been used, no request is sent but the one whose token the session has just been asked for
  (`Abortable.silenced`);
- the run is that of the dialogue without an abort, or it breaks off on the way and is aborted
  (`Abortable.breaksOff`); it succeeds iff it would without an abort and no reply comes too late
  (`Abortable.run_eq_ok_iff`, `Environment.lateReply`);
- a reply that comes too late ends the run: a success is dropped, but an error is still an error, and a refusal still
  costs the session its token (`Abortable.run_of_cancelled_in_flight`).
-/

namespace SeriesExport

variable {σ α : Type}

/-! ## Looking at the handle -/

/-- How far a dialogue is with the request it is at. -/
inductive Stage where
  /-- The handle is to be looked at before the next request; without a reply so far, there is no result yet. -/
  | idle (replied : Bool)
  /-- The handle has been looked at: the session may be asked for its token. -/
  | cleared
  /-- The session has been asked for its token: the request is sent, whether the handle is used by now or not. -/
  | asked
  /-- The reply is in. -/
  | replied (request : Request) (reply : Reply)
  /-- The handle has been looked at again: the reply may be used. -/
  | accepted

/-- From its stage on, the dialogue looks at the handle wherever it has to. -/
inductive Abortable : Stage → Dialogue (Result α) → Prop
  | done (result : Result α) : Abortable (.idle true) (.done result)
  | report {b : Bool} {change : Progress.Change} {next : Dialogue (Result α)} :
      Abortable (.idle b) next → Abortable (.idle b) (.report change next)
  | check {b : Bool} {next : Bool → Dialogue (Result α)} :
      next true = .done (.error .aborted) → Abortable .cleared (next false) → Abortable (.idle b) (.aborted next)
  | token {next : Option String → Dialogue (Result α)} :
      (∀ token, Abortable .asked (next token)) → Abortable .cleared (.token next)
  | ask {request : Request} {next : Reply → Dialogue (Result α)} :
      (∀ reply, Abortable (.replied request reply) (next reply)) → Abortable .asked (.ask request next)
  | failed {request : Request} {reply : Reply} {cause : ExportError} : reply.isRefusal = false →
      Client.verdict request reply = .error cause → Abortable (.replied request reply) (.done (.error cause))
  | refused {request : Request} {reply : Reply} : reply.isRefusal = true →
      Abortable (.replied request reply) (.refuse (.done (.error .unauthorized)))
  | recheck {request : Request} {reply : Reply} {body : String} {next : Bool → Dialogue (Result α)} :
      Client.verdict request reply = .ok body → next true = .done (.error .aborted) →
      Abortable .accepted (next false) → Abortable (.replied request reply) (.aborted next)
  | malformed (cause : ExportError) : Abortable .accepted (.done (.error cause))
  | accept {change : Progress.Change} {next : Dialogue (Result α)} :
      Abortable (.idle true) next → Abortable .accepted (.report change next)

/-- A request that may be sent is sent, and gets its reply. -/
theorem Abortable.exists_reply_of_cleared (env : Environment σ) {stage : Stage} {d : Dialogue (Result α)}
    (h : Abortable stage d) (hstage : stage = .cleared ∨ stage = .asked) (w : World σ) :
    ∃ e ∈ d.events env w, e.isReply = true := by
  induction h generalizing w with
  | token _ ih =>
    obtain ⟨e, he, hreply⟩ := ih w.session.token (.inr rfl) (w.askToken env)
    exact ⟨e, List.mem_cons_of_mem _ he, hreply⟩
  | ask _ _ => exact ⟨.received _, List.mem_cons_of_mem _ List.mem_cons_self, rfl⟩
  | _ => simp at hstage

/-- Without an abort there is a reply before there is a result. -/
theorem Abortable.exists_reply (env : Environment σ) {stage : Stage} {d : Dialogue (Result α)} (h : Abortable stage d)
    (hstage : stage = .idle false) (w : World σ) : ∃ e ∈ d.events env.quieted w.uncancelled, e.isReply = true := by
  induction h generalizing w with
  | report _ ih =>
    obtain ⟨e, he, hreply⟩ := ih hstage (w.report env _)
    exact ⟨e, List.mem_cons_of_mem _ he, hreply⟩
  | check _ hnext _ => exact hnext.exists_reply_of_cleared env.quieted (.inl rfl) w.uncancelled
  | _ => cases hstage

/-! ## No request after an abort -/

/-- Once the handle has been used, the dialogue sends nothing more; but if the session has just been asked for its
token, the request that the token is for is sent. -/
def Dialogue.Silenced (env : Environment σ) (d : Dialogue α) (w : World σ) : Prop :=
  ∀ v ∈ d.worlds env w, v.cancelled = true → (d.run env w).2.requests = v.requests ∨
    v.trace.getLast? = some .tokenAsked ∧ ∃ request, (d.run env w).2.requests = v.requests ++ [request]

namespace Dialogue.Silenced

variable {env : Environment σ} {w : World σ}

/-- After anything else there is no request at all. -/
theorem requests_run {d : Dialogue α} (h : d.Silenced env w) (hw : w.cancelled = true)
    (hlast : w.trace.getLast? ≠ some .tokenAsked) : (d.run env w).2.requests = w.requests :=
  (h w (mem_worlds_self env d w) hw).resolve_right fun hasked => hlast hasked.1

theorem done (a : α) (w : World σ) : Silenced env (.done a) w := by
  intro v hv _
  left
  rw [List.mem_singleton.mp hv]
  rfl

theorem refuse (a : α) (w : World σ) : Silenced env (.refuse (.done a)) w := by
  intro v hv _
  left
  rcases List.mem_cons.mp hv with rfl | hv
  · rfl
  · rw [List.mem_singleton.mp hv]
    rfl

theorem report {change : Progress.Change} {next : Dialogue α} (h : Silenced env next (w.report env change)) :
    Silenced env (.report change next) w := by
  intro v hv hc
  rcases List.mem_cons.mp hv with rfl | hv
  · left
    have hc' : (v.report env change).cancelled = true := by simp [World.report, hc]
    rw [run_report, h.requests_run hc' (by simp), World.requests_report]
  · exact h v hv hc

/-- The request goes out, and it is the last if the handle is used before its reply is in. -/
theorem ask {request : Request} {next : Reply → Dialogue α}
    (h : Silenced env (next (w.exchange env request).1) (w.exchange env request).2)
    (hw : w.trace.getLast? = some .tokenAsked) : Silenced env (.ask request next) w := by
  have hlast : (w.record env (.sent request)).cancelled = true →
      ((Dialogue.ask request next).run env w).2.requests = w.requests ++ [request] := by
    intro hc
    rw [run_ask, h.requests_run (World.cancelled_exchange_of_sent env w hc) (by simp), World.requests_exchange]
  intro v hv hc
  rcases List.mem_cons.mp hv with rfl | hv
  · exact .inr ⟨hw, request, hlast (by simp [hc])⟩
  rcases List.mem_cons.mp hv with rfl | hv
  · left
    rw [hlast hc, World.requests_record_sent]
  · exact h v hv hc

/-- If the handle is found used, there is nothing left to do. -/
theorem aborted {a : α} {next : Bool → Dialogue α} (htrue : next true = .done a)
    (hfalse : w.cancelled = false → Silenced env (next false) w) : Silenced env (.aborted next) w := by
  unfold Silenced
  cases hc : w.cancelled with
  | true =>
    rw [run_aborted env next hc, worlds_aborted env next hc, htrue]
    exact done a w
  | false =>
    rw [run_aborted env next hc, worlds_aborted env next hc]
    exact hfalse hc

end Dialogue.Silenced

/-- Whenever the handle is used, the request in flight is the last one, or the one that is about to be sent. -/
theorem Abortable.silenced {env : Environment σ} {stage : Stage} {d : Dialogue (Result α)} (h : Abortable stage d)
    {w : World σ} (hw : stage = .cleared → w.cancelled = false)
    (hw' : stage = .asked → w.trace.getLast? = some .tokenAsked) : d.Silenced env w := by
  -- A request follows only on the stage `cleared`, where the handle has just been found unused, and after that the
  -- only thing to happen before it is that the session is asked for its token.
  induction h generalizing w with
  | done result => exact .done result w
  | report _ ih => exact .report (ih (by simp) (by simp))
  | check htrue _ ih => exact .aborted htrue fun hc => ih (fun _ => hc) (by simp)
  | token _ ih =>
    intro v hv hc
    rcases List.mem_cons.mp hv with rfl | hv
    · rw [hw rfl] at hc
      cases hc
    · exact ih w.session.token (by simp) (by simp) v hv hc
  | ask _ ih => exact .ask (ih _ (by simp) (by simp)) (hw' rfl)
  | failed _ _ => exact .done _ w
  | refused _ => exact .refuse _ w
  | recheck _ htrue _ ih => exact .aborted htrue fun _ => ih (by simp) (by simp)
  | malformed cause => exact .done _ w
  | accept _ ih => exact .report (ih (by simp) (by simp))

/-! ## The run without an abort, or the front of it -/

def Stage.isReplied : Stage → Bool
  | .replied _ _ => true
  | _ => false

/-- Whether the reply that is in, or one of those among the events, is late. -/
def Stage.isLate (stage : Stage) (env : Environment σ) (w : World σ) (events : List Event) : Bool :=
  (stage.isReplied && w.cancelled) || env.lateReply w.trace w.cancelled events

/-- The run does what it would do without an abort, and does it to the end unless a reply is late or an error; or it
breaks off and is aborted, because a reply would be late. -/
def Dialogue.BreaksOff (env : Environment σ) (d : Dialogue (Result α)) (w : World σ) (late : Bool) : Prop :=
  ((d.run env w).1 = (d.run env.quieted w.uncancelled).1 ∧
      (d.run env w).2.trace = (d.run env.quieted w.uncancelled).2.trace ∧
      (late = false ∨ ∃ cause, (d.run env w).1 = .error cause)) ∨
    ((d.run env w).1 = .error .aborted ∧
      (d.run env w).2.trace <+: (d.run env.quieted w.uncancelled).2.trace ∧ late = true)

namespace Dialogue.BreaksOff

variable {env : Environment σ} {w : World σ} {late : Bool}

theorem done (result : Result α) : BreaksOff env (.done result) w false := .inl ⟨rfl, rfl, .inl rfl⟩

theorem failed (cause : ExportError) : BreaksOff env (.done (.error cause) : Dialogue (Result α)) w late :=
  .inl ⟨rfl, rfl, .inr ⟨cause, rfl⟩⟩

theorem refused (cause : ExportError) : BreaksOff env (.refuse (.done (.error cause)) : Dialogue (Result α)) w late :=
  .inl ⟨rfl, rfl, .inr ⟨cause, rfl⟩⟩

theorem aborted {next : Bool → Dialogue (Result α)} (htrue : next true = .done (.error .aborted))
    (hlate : w.cancelled = true → late = true) (hfalse : w.cancelled = false → BreaksOff env (next false) w late) :
    BreaksOff env (.aborted next) w late := by
  cases hc : w.cancelled with
  | true =>
    have hrun : (Dialogue.aborted next).run env w = (.error .aborted, w) := by
      rw [run_aborted env next hc, htrue]
      rfl
    refine .inr ⟨by rw [hrun], ?_, hlate hc⟩
    rw [hrun, trace_run]
    exact List.prefix_append _ _
  | false =>
    unfold BreaksOff
    rw [run_aborted env next hc]
    exact hfalse hc

end Dialogue.BreaksOff

/-- Whenever the handle is used, the run is the one without an abort or breaks off. -/
theorem Abortable.breaksOff {env : Environment σ} {stage : Stage} {d : Dialogue (Result α)} (h : Abortable stage d)
    (w : World σ) : d.BreaksOff env w (stage.isLate env w (d.events env.quieted w.uncancelled)) := by
  -- Both runs go through the same worlds, but for the handle, until the dialogue finds it used.
  induction h generalizing w with
  | done result => exact .done result
  | @report _ change _ _ ih => exact ih (w.report env change)
  | check htrue hnext ih =>
    refine .aborted htrue (fun hc => ?_) fun _ => ih w
    have hreply := hnext.exists_reply_of_cleared env.quieted (.inl rfl) w.uncancelled
    show env.lateReply w.trace w.cancelled _ = true
    rw [hc]
    exact env.lateReply_of_used hreply
  | token _ ih => exact ih w.session.token (w.askToken env)
  | @ask request next _ ih => exact ih (w.exchange env request).1 (w.exchange env request).2
  | failed _ _ => exact .failed _
  | refused _ => exact .refused _
  | recheck _ htrue _ ih =>
    refine .aborted htrue (fun hc => ?_) fun hc => ?_
    · rw [Stage.isLate, hc]
      rfl
    · have h := ih w
      simp only [Stage.isLate, Stage.isReplied, hc, Bool.and_false, Bool.false_or] at h ⊢
      exact h
  | malformed cause => exact .failed _
  | @accept change _ _ ih => exact ih (w.report env change)

/-- A dialogue that heeds the handle succeeds iff it does so without an abort and no reply comes too late. -/
theorem Abortable.run_eq_ok_iff {env : Environment σ} {d : Dialogue (Result α)} {b : Bool}
    (h : Abortable (.idle b) d) (w : World σ) (a : α) :
    (d.run env w).1 = .ok a ↔ (d.run env.quieted w.uncancelled).1 = .ok a ∧
      env.lateReply w.trace w.cancelled (d.events env.quieted w.uncancelled) = false := by
  obtain ⟨hrun, _, hlate⟩ | ⟨hrun, _, hlate⟩ := (h.breaksOff w : d.BreaksOff env w _)
  · refine ⟨fun hok => ⟨hrun ▸ hok, ?_⟩, fun hok => hrun.trans hok.1⟩
    rcases hlate with hlate | ⟨cause, hcause⟩
    · exact hlate
    · rw [hok] at hcause
      cases hcause
  · have hlate : env.lateReply w.trace w.cancelled (d.events env.quieted w.uncancelled) = true := hlate
    refine ⟨fun hok => ?_, fun hok => ?_⟩
    · rw [hrun] at hok
      cases hok
    · rw [hok.2] at hlate
      cases hlate

/-! ## Late replies -/

/-- What comes of a reply that is too late: nothing if it is a success, and its error if it is one. -/
def Client.lateCause (request : Request) (reply : Reply) : ExportError :=
  match verdict request reply with
  | .ok _ => .aborted
  | .error cause => cause

theorem Client.lateCause_eq_aborted_iff (request : Request) {reply : Reply} :
    lateCause request reply = .aborted ↔ reply.isSuccess = true := by
  cases reply with
  | failed failure => exact ⟨nofun, nofun⟩
  | answered response =>
    by_cases hsuccess : response.isSuccess = true
    · simp [lateCause, verdict, Reply.isSuccess, ← Response.isSuccess_iff, hsuccess]
    · by_cases hrefusal : response.status = 401 <;>
        simp [lateCause, verdict, Reply.isSuccess, ← Response.isSuccess_iff, hsuccess, hrefusal, rejection]

/-- A late reply ends the dialogue. -/
theorem Abortable.run_of_late (env : Environment σ) {request : Request} {reply : Reply} {d : Dialogue (Result α)}
    (h : Abortable (.replied request reply) d) {w : World σ} (hw : w.cancelled = true) :
    d.run env w = (.error (Client.lateCause request reply), { w with session := w.session.hear reply }) := by
  cases h with
  | failed hrefusal hverdict =>
    rw [Client.lateCause, hverdict, Session.hear, hrefusal]
    rfl
  | refused hrefusal =>
    rw [Client.lateCause, Client.verdict_of_isRefusal hrefusal, Session.hear, hrefusal]
    rfl
  | @recheck _ _ body next hverdict htrue _ =>
    have hrefusal : reply.isRefusal = false := by
      cases hr : reply.isRefusal with
      | false => rfl
      | true =>
        rw [Client.verdict_of_isRefusal hr] at hverdict
        cases hverdict
    rw [Dialogue.run_aborted env next hw, htrue, Client.lateCause, hverdict, Session.hear, hrefusal]
    rfl

/-- A world whose last event is a request has a request in flight. -/
theorem World.inFlight_pos_of_sent {w : World σ} {history : List Event} {request : Request}
    (h : w.trace = history ++ [.sent request]) : 0 < w.inFlight := by
  rw [inFlight, h, List.foldl_append]
  exact Nat.succ_pos _

/-- If the run comes to the state `v`, in which `request` is in flight, the reply to it is the last thing to happen, and
it is too late. -/
def Dialogue.EndsLate (env : Environment σ) (v : World σ) (request : Request) (d : Dialogue (Result α))
    (w : World σ) : Prop :=
  let reply := (env.answer v.server request).1
  v ∈ d.worlds env w → (d.run env w).1 = .error (Client.lateCause request reply) ∧
    (d.run env w).2.trace = v.trace ++ [.received reply] ∧ (d.run env w).2.session = v.session.hear reply ∧
    (d.run env w).2.server = (env.answer v.server request).2

namespace Dialogue.EndsLate

variable {env : Environment σ} {w v : World σ} {request : Request}

theorem done (hv : v ≠ w) (result : Result α) : EndsLate env v request (.done result) w :=
  fun hmem => absurd (List.mem_singleton.mp hmem) hv

/-- A step from another state. -/
theorem step {d next : Dialogue (Result α)} {w' : World σ} (hv : v ≠ w)
    (hworlds : d.worlds env w = w :: next.worlds env w') (hrun : d.run env w = next.run env w')
    (h : EndsLate env v request next w') : EndsLate env v request d w := by
  intro hmem
  rw [hworlds] at hmem
  rw [hrun]
  exact h ((List.mem_cons.mp hmem).resolve_left hv)

theorem token {next : Option String → Dialogue (Result α)} (hv : v ≠ w)
    (h : EndsLate env v request (next w.session.token) (w.askToken env)) : EndsLate env v request (.token next) w :=
  step hv rfl rfl h

theorem refuse (hv : v ≠ w) (hv' : v ≠ { w with session := w.session.refuse }) (result : Result α) :
    EndsLate env v request (.refuse (.done result)) w :=
  step hv rfl rfl (done hv' result)

theorem report {change : Progress.Change} {next : Dialogue (Result α)} (hv : v ≠ w)
    (h : EndsLate env v request next (w.report env change)) : EndsLate env v request (.report change next) w :=
  step hv rfl rfl h

theorem aborted {result : Result α} {next : Bool → Dialogue (Result α)} (hv : v ≠ w) (htrue : next true = .done result)
    (hfalse : EndsLate env v request (next false) w) : EndsLate env v request (.aborted next) w := by
  unfold EndsLate
  cases hc : w.cancelled with
  | true =>
    rw [run_aborted env next hc, worlds_aborted env next hc, htrue]
    exact done hv result
  | false =>
    rw [run_aborted env next hc, worlds_aborted env next hc]
    exact hfalse

end Dialogue.EndsLate

/-- Whenever the handle is used while a request is in flight, the reply to it is the last thing that happens. -/
theorem Abortable.run_of_cancelled_in_flight {env : Environment σ} {stage : Stage} {d : Dialogue (Result α)}
    (h : Abortable stage d) {w : World σ} (hw : w.inFlight = 0) {v : World σ} {history : List Event}
    {request : Request} (hcancel : v.cancelled = true) (hsent : v.trace = history ++ [.sent request]) :
    d.EndsLate env v request w := by
  -- Between two exchanges nothing is in flight, so the state is inside the exchange of some request.
  have hflight : ∀ {u : World σ}, u.inFlight = 0 → v ≠ u := by
    rintro u hu rfl
    exact absurd hu (Nat.ne_of_gt (World.inFlight_pos_of_sent hsent))
  induction h generalizing w with
  | done result => exact .done (hflight hw) result
  | report _ ih => exact .report (hflight hw) (ih (by rw [World.inFlight_report, hw]))
  | check htrue _ ih => exact .aborted (hflight hw) htrue (ih hw)
  | token _ ih => exact .token (hflight hw) (ih w.session.token (by rw [World.inFlight_askToken, hw]))
  | @ask asked next hnext ih =>
    intro hv
    rcases List.mem_cons.mp hv with rfl | hv
    · exact absurd rfl (hflight hw)
    rcases List.mem_cons.mp hv with rfl | hv
    · obtain ⟨-, hasked⟩ := List.append_inj' (hsent.symm.trans (World.trace_record env w _)) rfl
      obtain rfl : request = asked := by simpa using hasked
      have hlate := (hnext (w.exchange env request).1).run_of_late env (World.cancelled_exchange_of_sent env w hcancel)
      rw [Dialogue.run_ask, hlate]
      refine ⟨rfl, ?_, rfl, rfl⟩
      rw [World.trace_exchange, World.trace_record, List.append_assoc]
      rfl
    · have hw' : (w.exchange env asked).2.inFlight = 0 := by rw [World.inFlight_exchange, hw]
      exact ih (w.exchange env asked).1 hw' hv
  | failed _ _ => exact .done (hflight hw) _
  | refused _ => exact .refuse (hflight hw) (hflight hw) _
  | recheck _ htrue _ ih => exact .aborted (hflight hw) htrue (ih hw)
  | malformed cause => exact .done (hflight hw) _
  | accept _ ih => exact .report (hflight hw) (ih (by rw [World.inFlight_report, hw]))

end SeriesExport
