import SeriesExport.Proofs.Client

/-!
# Requests with their replies

A run sends its requests one after the other, and each has its reply before the next is sent. `Dialogue.exchanges`
lists them in pairs. A call of the client is one exchange, and what follows depends on its reply (`exchanges_get_bind`):
on what is decoded of it, if it is a success (`Client.verdict_of_read?_eq_some`, `Client.verdict_of_read?_eq_none`).

`Turns` says of exchanges that they are about one page of a list after the other (`Turns.requests`).
-/

namespace SeriesExport

namespace Dialogue

variable {σ α β : Type} (env : Environment σ)

/-- The requests that are sent in the run of a dialogue, each with its reply. -/
def exchanges : Dialogue α → World σ → List (Request × Reply)
  | .done _, _ => []
  | .token next, w => (next w.session.token).exchanges (w.askToken env)
  | .refuse next, w => next.exchanges { w with session := w.session.refuse }
  | .ask request next, w =>
    let reply := (w.exchange env request).1
    (request, reply) :: (next reply).exchanges (w.exchange env request).2
  | .report change next, w => next.exchanges (w.report env change)
  | .aborted next, w => (next w.cancelled).exchanges w

/-- Nothing else is sent. -/
theorem requests_run : ∀ (d : Dialogue α) (w : World σ),
    (d.run env w).2.requests = w.requests ++ (d.exchanges env w).map Prod.fst
  | .done _, w => (List.append_nil w.requests).symm
  | .token next, w => by
    rw [run_token, requests_run (next w.session.token), World.requests_askToken, exchanges]
  | .refuse next, w => requests_run next { w with session := w.session.refuse }
  | .ask request next, w => by
    rw [run_ask, requests_run (next _), World.requests_exchange, List.append_assoc]
    rfl
  | .report change next, w => by rw [run_report, requests_run next, World.requests_report, exchanges]
  | .aborted next, w => requests_run (next w.cancelled) w

theorem exchanges_bind (f : α → Dialogue β) : ∀ (d : Dialogue α) (w : World σ),
    (d.bind f).exchanges env w = d.exchanges env w ++ (f (d.run env w).1).exchanges env (d.run env w).2
  | .done _, _ => rfl
  | .token next, w => exchanges_bind f (next w.session.token) (w.askToken env)
  | .refuse next, w => exchanges_bind f next { w with session := w.session.refuse }
  | .ask _ next, _ => congrArg (_ :: ·) (exchanges_bind f (next _) _)
  | .report change next, w => exchanges_bind f next (w.report env change)
  | .aborted next, w => exchanges_bind f (next w.cancelled) w

end Dialogue

/-! ## What a reply has to say -/

/-- What the body of a reply says, if its status is between 200 and 299. -/
def Reply.read? {α : Type} (decode : String → Except Json.Fault α) : Reply → Option α
  | .failed _ => none
  | .answered response =>
    if 200 ≤ response.status.toNat ∧ response.status.toNat < 300 then (decode response.body).toOption else none

theorem Reply.read?_eq_some_iff {α : Type} {decode : String → Except Json.Fault α} {reply : Reply} {a : α} :
    reply.read? decode = some a ↔
      ∃ response, reply = .answered response ∧ response.isSuccess = true ∧ decode response.body = .ok a := by
  cases reply with
  | failed failure => simp [read?]
  | answered response =>
    by_cases hsuccess : response.isSuccess = true
    · cases hdecode : decode response.body <;>
        simp [read?, ← Response.isSuccess_iff, hsuccess, hdecode, Except.toOption]
    · simp [read?, ← Response.isSuccess_iff, hsuccess]

namespace Client

variable {α β σ : Type} {decode : String → Except Json.Fault α} {reply : Reply}

/-- A reply that says something is a success. -/
theorem verdict_of_read?_eq_some {a : α} (h : reply.read? decode = some a) (request : Request) :
    ∃ body, verdict request reply = .ok body ∧ decode body = .ok a ∧ reply.isRefusal = false := by
  obtain ⟨response, rfl, hsuccess, hdecode⟩ := Reply.read?_eq_some_iff.mp h
  exact ⟨response.body, if_pos hsuccess, hdecode, Reply.isRefusal_of_isSuccess hsuccess⟩

/-- A reply that says nothing is an error, or a success with a body that cannot be decoded. -/
theorem verdict_of_read?_eq_none (h : reply.read? decode = none) (request : Request) :
    (∃ cause, verdict request reply = .error cause) ∨
      ∃ body fault, verdict request reply = .ok body ∧ decode body = .error fault := by
  cases hverdict : verdict request reply with
  | error cause => exact .inl ⟨cause, rfl⟩
  | ok body =>
    right
    cases reply with
    | failed failure => cases hverdict
    | answered response =>
      by_cases hsuccess : response.isSuccess = true
      · obtain rfl : response.body = body := by simpa [verdict, hsuccess] using hverdict
        cases hdecode : decode response.body with
        | error fault => exact ⟨_, fault, rfl, hdecode⟩
        | ok a =>
          rw [Reply.read?_eq_some_iff.mpr ⟨response, rfl, hsuccess, hdecode⟩] at h
          cases h
      · by_cases hrefused : response.status = 401 <;> simp [verdict, hsuccess, hrefused] at hverdict

/-- The world after a call: the session has heard the reply. -/
def settled (env : Environment σ) (w : World σ) (request : Request) : World σ :=
  { (w.call env request).2 with session := w.session.hear (w.call env request).1 }

/-- A call of the client is one exchange. -/
theorem exchanges_get_bind (env : Environment σ) (config : Config) (path : String) (query : Query)
    (f : Result String → Dialogue β) (w : World σ) :
    let asked := request config path query w.session.token
    let reply := (w.call env asked).1
    ((get config path query).bind f).exchanges env w =
      (asked, reply) :: (f (verdict asked reply)).exchanges env (settled env w asked) := by
  intro asked reply
  have hget : (get config path query).exchanges env w = [(asked, reply)] := by
    rw [get_eq]
    show (asked, reply) :: (settle asked reply).exchanges env _ = _
    unfold settle
    split <;> rfl
  rw [Dialogue.exchanges_bind, hget, run_get]
  rfl

theorem run_get_bind (env : Environment σ) (config : Config) (path : String) (query : Query)
    (f : Result String → Dialogue β) (w : World σ) :
    let asked := request config path query w.session.token
    ((get config path query).bind f).run env w =
      (f (verdict asked (w.call env asked).1)).run env (settled env w asked) := by
  intro asked
  rw [Dialogue.run_bind, run_get]
  rfl

end Client

/-! ## Pages in turn -/

/-- Exchanges about the pages of a list from page `p` on, `k` items on a page: after a page that reports no more than
the pages up to it hold, or no total at all, there are none. They may break off before. -/
inductive Turns (ask : Nat → Request) (total? : Reply → Option UInt64) (k : Nat) : Nat → List (Request × Reply) → Prop
  | none (p : Nat) : Turns ask total? k p []
  | last (p : Nat) (reply : Reply) : Turns ask total? k p [(ask p, reply)]
  | more {p : Nat} {reply : Reply} {total : UInt64} {exchanges : List (Request × Reply)} :
      total? reply = some total → p * k < total.toNat → Turns ask total? k (p + 1) exchanges →
      Turns ask total? k p ((ask p, reply) :: exchanges)

/-- No page is left out, and none is asked for twice. -/
theorem Turns.requests {ask : Nat → Request} {total? : Reply → Option UInt64} {k p : Nat}
    {exchanges : List (Request × Reply)} (h : Turns ask total? k p exchanges) :
    exchanges.map Prod.fst = (List.range' p exchanges.length).map ask := by
  induction h with
  | none p => rfl
  | last p reply => rfl
  | more _ _ _ ih =>
    rw [List.map_cons, ih, List.length_cons, List.range'_succ, List.map_cons]

end SeriesExport
