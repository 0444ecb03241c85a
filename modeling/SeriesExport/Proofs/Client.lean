import SeriesExport.Client
import SeriesExport.Proofs.World

/-!
# What a reply comes to

One call of the client is one request (`Client.get_eq`). What it gives back depends on the reply alone
(`Client.verdict`), and so does what the session hears of it (`Session.hear`); `Client.run_get` says so of runs.
-/

namespace SeriesExport

/-- Whether a reply says that the server does not accept the session. -/
def Reply.isRefusal : Reply → Bool
  | .failed _ => false
  | .answered response => response.status = 401

/-- Whether a reply has a status between 200 and 299. -/
def Reply.isSuccess : Reply → Bool
  | .failed _ => false
  | .answered response => 200 ≤ response.status.toNat ∧ response.status.toNat < 300

/-- The session after a reply: a refusal takes the token away, and nothing else touches it. -/
def Session.hear (s : Session) (reply : Reply) : Session := if reply.isRefusal then s.refuse else s

theorem Session.hear_eq_self_iff {s : Session} {reply : Reply} : s.hear reply = s ↔ reply.isRefusal = false := by
  cases hrefusal : reply.isRefusal with
  | true =>
    rw [hear, hrefusal]
    refine ⟨fun h => ?_, fun h => by cases h⟩
    have hrefusals : s.refusals + 1 = s.refusals := congrArg Session.refusals h
    omega
  | false =>
    rw [hear, hrefusal]
    exact ⟨fun _ => rfl, fun _ => rfl⟩

/-- The status that a success usually has. -/
theorem status_ok : 200 ≤ (200 : UInt16).toNat ∧ (200 : UInt16).toNat < 300 := by decide

theorem Response.isSuccess_iff {response : Response} :
    response.isSuccess = true ↔ 200 ≤ response.status.toNat ∧ response.status.toNat < 300 := by
  rw [isSuccess, Bool.and_eq_true, decide_eq_true_iff, decide_eq_true_iff, UInt16.le_iff_toNat_le,
    UInt16.lt_iff_toNat_lt]
  rfl

theorem Response.isSuccess_eq_false {response : Response}
    (h : ¬(200 ≤ response.status.toNat ∧ response.status.toNat < 300)) : response.isSuccess = false :=
  Bool.eq_false_iff.mpr (mt isSuccess_iff.mp h)

theorem Response.isSuccess_of_refusal {response : Response} (h : response.status = 401) :
    response.isSuccess = false := by
  rw [isSuccess, h]
  decide

theorem Reply.isRefusal_of_isSuccess {response : Response} (h : response.isSuccess = true) :
    (Reply.answered response).isRefusal = false := by
  refine decide_eq_false fun hr => ?_
  rw [Response.isSuccess_of_refusal hr] at h
  cases h

namespace Client

/-- The request that a call of the client sends. -/
def request (config : Config) (path : String) (query : Query) (token : Option String) : Request :=
  ⟨config.apiUrl, path, query, config.authHeader, token, config.timeout⟩

/-- What a reply comes to: the body of a success, or an error. -/
def verdict (request : Request) : Reply → Result String
  | .failed failure => .error (.transport failure)
  | .answered response =>
    if response.isSuccess then .ok response.body
    else if response.status = 401 then .error .unauthorized
    else .error (rejection response.status response.body request.pathAndQuery)

theorem verdict_of_isRefusal {request : Request} {reply : Reply} (h : reply.isRefusal = true) :
    verdict request reply = .error .unauthorized := by
  cases reply with
  | failed failure => cases h
  | answered response =>
    have h : response.status = 401 := of_decide_eq_true h
    simp [verdict, Response.isSuccess_of_refusal h, h]

/-- What is left to do when the reply is in. -/
def settle (request : Request) (reply : Reply) : Dialogue (Result String) :=
  if reply.isRefusal then .refuse (.done (.error .unauthorized)) else .done (verdict request reply)

theorem get_eq (config : Config) (path : String) (query : Query) :
    get config path query = .token fun token => .ask (request config path query token)
      fun reply => settle (request config path query token) reply := by
  refine congrArg Dialogue.token (funext fun token => congrArg (Dialogue.ask _) (funext fun reply => ?_))
  cases reply with
  | failed failure => rfl
  | answered response =>
    show (if response.isSuccess then _ else if response.status = 401 then _ else _) = _
    by_cases hr : response.status = 401
    · simp only [settle, Reply.isRefusal, hr, Response.isSuccess_of_refusal hr]
      rfl
    · simp only [settle, Reply.isRefusal, hr, decide_false, verdict, if_false, Bool.false_eq_true]
      split <;> rfl

theorem run_settle {σ : Type} (env : Environment σ) (request : Request) (reply : Reply) (w : World σ) :
    (settle request reply).run env w = (verdict request reply, { w with session := w.session.hear reply }) := by
  unfold settle Session.hear
  split
  · next h => rw [verdict_of_isRefusal h]; rfl
  · rfl

/-- A call of the client is one request, and its reply decides everything. -/
theorem run_get {σ : Type} (env : Environment σ) (config : Config) (path : String) (query : Query) (w : World σ) :
    (get config path query).run env w =
      let request := request config path query w.session.token
      let called := w.call env request
      (verdict request called.1, { called.2 with session := w.session.hear called.1 }) := by
  rw [get_eq]
  exact run_settle env _ _ _

end Client

end SeriesExport
