import SeriesExport.Dialogue

/-!
# What a dialogue leads the world through

- `World.record` and `World.exchange`, one request with its reply, change the world only where they say so; a request
  is in flight only between the two halves of an exchange. Before it the session is asked for its token (`World.call`);
- `Dialogue.worlds` lists the states that a dialogue leads the world through, and `Dialogue.events` what happens
  between them (`trace_run`);
- whatever a dialogue does, no state has more than one request in flight (`inFlight_le_one`).
-/

namespace SeriesExport

namespace World

variable {σ : Type} (env : Environment σ) (w : World σ)

/-! ## Recording an event -/

@[simp] theorem server_record (e : Event) : (w.record env e).server = w.server := rfl

@[simp] theorem session_record (e : Event) : (w.record env e).session = w.session := rfl

@[simp] theorem trace_record (e : Event) : (w.record env e).trace = w.trace ++ [e] := rfl

@[simp] theorem cancelled_record (e : Event) :
    (w.record env e).cancelled = (w.cancelled || env.aborts (w.trace ++ [e])) := rfl

@[simp] theorem requests_record_sent (request : Request) :
    (w.record env (.sent request)).requests = w.requests ++ [request] := by
  simp [requests]

@[simp] theorem inFlight_record_sent (request : Request) :
    (w.record env (.sent request)).inFlight = w.inFlight + 1 := by
  simp [inFlight]

/-- The world after a report of progress. -/
def report (change : Progress.Change) : World σ :=
  let progress := w.progress.apply change
  { w with progress }.record env (.progressed progress)

@[simp] theorem server_report (change : Progress.Change) : (w.report env change).server = w.server := rfl

@[simp] theorem session_report (change : Progress.Change) : (w.report env change).session = w.session := rfl

@[simp] theorem trace_report (change : Progress.Change) :
    (w.report env change).trace = w.trace ++ [.progressed (w.progress.apply change)] := rfl

@[simp] theorem requests_report (change : Progress.Change) : (w.report env change).requests = w.requests := by
  simp [requests]

@[simp] theorem inFlight_report (change : Progress.Change) : (w.report env change).inFlight = w.inFlight := by
  simp [inFlight]

theorem mem_requests_iff {w : World σ} {request : Request} : request ∈ w.requests ↔ .sent request ∈ w.trace := by
  rw [requests, List.mem_filterMap]
  constructor
  · rintro ⟨e, he, heq⟩
    cases e <;> cases heq
    exact he
  · exact fun h => ⟨_, h, rfl⟩

/-- A longer history has all the requests of a shorter one, in front. -/
theorem requests_prefix {w v : World σ} (h : w.trace <+: v.trace) : w.requests <+: v.requests :=
  h.filterMap _

/-- The world once the session has been asked for its token. -/
def askToken : World σ := w.record env .tokenAsked

@[simp] theorem server_askToken : (w.askToken env).server = w.server := rfl

@[simp] theorem session_askToken : (w.askToken env).session = w.session := rfl

@[simp] theorem trace_askToken : (w.askToken env).trace = w.trace ++ [.tokenAsked] := rfl

@[simp] theorem requests_askToken : (w.askToken env).requests = w.requests := by
  simp [requests]

@[simp] theorem inFlight_askToken : (w.askToken env).inFlight = w.inFlight := by
  simp [inFlight]

/-! ## One request and its reply -/

/-- What comes of a request, and the world after it. -/
def exchange (request : Request) : Reply × World σ :=
  let answer := env.answer w.server request
  (answer.1, { w.record env (.sent request) with server := answer.2 }.record env (.received answer.1))

@[simp] theorem server_exchange (request : Request) :
    (w.exchange env request).2.server = (env.answer w.server request).2 := rfl

@[simp] theorem session_exchange (request : Request) : (w.exchange env request).2.session = w.session := rfl

@[simp] theorem trace_exchange (request : Request) :
    (w.exchange env request).2.trace = w.trace ++ [.sent request, .received (w.exchange env request).1] := by
  simp [exchange]

@[simp] theorem requests_exchange (request : Request) :
    (w.exchange env request).2.requests = w.requests ++ [request] := by
  simp [requests]

@[simp] theorem inFlight_exchange (request : Request) : (w.exchange env request).2.inFlight = w.inFlight := by
  simp [inFlight]

/-- The handle stays used: if it is used while the request is in flight, it is when the reply is in. -/
theorem cancelled_exchange_of_sent {request : Request} (h : (w.record env (.sent request)).cancelled = true) :
    (w.exchange env request).2.cancelled = true := by
  show (((w.record env (.sent request)).cancelled || _) = true)
  rw [h, Bool.true_or]

/-- What comes of a call, and the world after it: the session is asked for its token, and a request is sent. -/
def call (request : Request) : Reply × World σ := (w.askToken env).exchange env request

theorem fst_call (request : Request) : (w.call env request).1 = (env.answer w.server request).1 := rfl

@[simp] theorem server_call (request : Request) :
    (w.call env request).2.server = (env.answer w.server request).2 := rfl

@[simp] theorem session_call (request : Request) : (w.call env request).2.session = w.session := rfl

@[simp] theorem trace_call (request : Request) :
    (w.call env request).2.trace = w.trace ++ [.tokenAsked, .sent request, .received (w.call env request).1] := by
  simp [call]

@[simp] theorem requests_call (request : Request) : (w.call env request).2.requests = w.requests ++ [request] := by
  simp [call]

@[simp] theorem inFlight_call (request : Request) : (w.call env request).2.inFlight = w.inFlight := by
  simp [call]

end World

/-! ## The states of a run -/

namespace Dialogue

variable {σ α : Type} (env : Environment σ)

@[simp] theorem run_report (change : Progress.Change) (next : Dialogue α) (w : World σ) :
    (Dialogue.report change next).run env w = next.run env (w.report env change) := rfl

@[simp] theorem run_token (next : Option String → Dialogue α) (w : World σ) :
    (Dialogue.token next).run env w = (next w.session.token).run env (w.askToken env) := rfl

@[simp] theorem run_ask (request : Request) (next : Reply → Dialogue α) (w : World σ) :
    (Dialogue.ask request next).run env w = (next (w.exchange env request).1).run env (w.exchange env request).2 := rfl

theorem run_aborted (next : Bool → Dialogue α) {w : World σ} {b : Bool} (h : w.cancelled = b) :
    (Dialogue.aborted next).run env w = (next b).run env w := by
  rw [run, h]

/-- The states that a dialogue leads the world through, from the first to the last. -/
def worlds : Dialogue α → World σ → List (World σ)
  | .done _, w => [w]
  | .token next, w => w :: (next w.session.token).worlds (w.askToken env)
  | .refuse next, w => w :: next.worlds { w with session := w.session.refuse }
  | .ask request next, w =>
    w :: w.record env (.sent request) :: (next (w.exchange env request).1).worlds (w.exchange env request).2
  | .report change next, w => w :: next.worlds (w.report env change)
  | .aborted next, w => (next w.cancelled).worlds w

theorem mem_worlds_self : ∀ (d : Dialogue α) (w : World σ), w ∈ d.worlds env w
  | .done _, w => List.mem_singleton_self w
  | .token _, _ => List.mem_cons_self
  | .refuse _, _ => List.mem_cons_self
  | .ask _ _, _ => List.mem_cons_self
  | .report _ _, _ => List.mem_cons_self
  | .aborted next, w => mem_worlds_self (next w.cancelled) w

theorem worlds_aborted (next : Bool → Dialogue α) {w : World σ} {b : Bool} (h : w.cancelled = b) :
    (Dialogue.aborted next).worlds env w = (next b).worlds env w := by
  rw [worlds, h]

/-- What happens in the run of a dialogue. -/
def events : Dialogue α → World σ → List Event
  | .done _, _ => []
  | .token next, w => .tokenAsked :: (next w.session.token).events (w.askToken env)
  | .refuse next, w => next.events { w with session := w.session.refuse }
  | .ask request next, w =>
    let reply := (w.exchange env request).1
    .sent request :: .received reply :: (next reply).events (w.exchange env request).2
  | .report change next, w => .progressed (w.progress.apply change) :: next.events (w.report env change)
  | .aborted next, w => (next w.cancelled).events w

/-- Nothing that has happened is taken back. -/
theorem trace_run : ∀ (d : Dialogue α) (w : World σ), (d.run env w).2.trace = w.trace ++ d.events env w
  | .done _, w => (List.append_nil w.trace).symm
  | .token next, w => by
    rw [run_token, trace_run (next w.session.token), World.trace_askToken, List.append_assoc]
    rfl
  | .refuse next, w => trace_run next { w with session := w.session.refuse }
  | .ask request next, w => by
    rw [run_ask, trace_run (next _), World.trace_exchange, List.append_assoc]
    rfl
  | .report change next, w => by
    rw [run_report, trace_run next, World.trace_report, List.append_assoc]
    rfl
  | .aborted next, w => trace_run (next w.cancelled) w

/-- Requests are sent one at a time: the next one only after the reply to the one before. -/
theorem inFlight_le_one : ∀ (d : Dialogue α) {w : World σ}, w.inFlight = 0 → ∀ v ∈ d.worlds env w, v.inFlight ≤ 1
  | .done _, w, hw, v, hv => by
    rw [List.mem_singleton.mp hv]
    omega
  | .token next, w, hw, v, hv => by
    rcases List.mem_cons.mp hv with rfl | hv
    · omega
    · exact inFlight_le_one (next w.session.token) (by rw [World.inFlight_askToken, hw]) v hv
  | .refuse next, w, hw, v, hv => by
    rcases List.mem_cons.mp hv with rfl | hv
    · omega
    · exact inFlight_le_one next (w := { w with session := w.session.refuse }) hw v hv
  | .ask request next, w, hw, v, hv => by
    rcases List.mem_cons.mp hv with rfl | hv
    · omega
    rcases List.mem_cons.mp hv with rfl | hv
    · exact Nat.le_of_eq (by rw [World.inFlight_record_sent, hw])
    · exact inFlight_le_one (next _) (by rw [World.inFlight_exchange, hw]) v hv
  | .report change next, w, hw, v, hv => by
    rcases List.mem_cons.mp hv with rfl | hv
    · omega
    · exact inFlight_le_one next (by rw [World.inFlight_report, hw]) v hv
  | .aborted next, w, hw, v, hv => inFlight_le_one (next w.cancelled) hw v hv

end Dialogue

end SeriesExport
