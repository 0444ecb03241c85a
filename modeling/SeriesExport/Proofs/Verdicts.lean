import Mathlib
import SeriesExport.Proofs.Client
import SeriesExport.Proofs.Denotation

/-!
# What the client makes of a reply

A body explains an error with a text if it is JSON within the limits and the last member `message` of its object is
that text, and not empty (`Client.Explains`). `Client.Outcome` says, without the client, which result a reply must have
and what becomes of the session. This is what the client makes of it (`Client.outcome_verdict`), and nothing else is
(`Client.Outcome.eq_verdict`).
-/

namespace SeriesExport

open Json (Key Outline Spells named memberValues)

theorem Json.eq_ok_of_toOption {α : Type} {x : Except Json.Fault α} {a : α} (h : x.toOption = some a) : x = .ok a := by
  cases x with
  | error fault => cases h
  | ok b =>
    obtain rfl := Option.some.inj h
    rfl

namespace Client

/-- The body of an error says what is wrong. -/
structure Explains (body message : String) : Prop where
  intro ::
  object : ∃ members, Spells body (.object members true) ∧ (Outline.object members true).Readable Json.maxDepth ∧
    (named "message" members).getLast? = some (.text (some message))
  ne_empty : message ≠ ""

/-- The member of a value that is read within the limits, if it is an object. -/
theorem member?_of_object {room : Nat} {members : List (Key × Outline)} {v : Json} (name : String)
    (h : (Outline.object members true).value (room + 1) = .ok v) :
    v.member? name = (named name members).getLast?.bind fun o => (o.value room).toOption := by
  obtain ⟨vs, hvs, -, rfl⟩ := Json.value_object_eq_ok_iff.mp h
  exact Json.get?_ofList_memberValues name hvs

theorem serverMessage?_eq_some_iff {body message : String} :
    serverMessage? body = some message ↔ Explains body message := by
  constructor
  · intro h
    obtain ⟨v, hv, h⟩ := Option.bind_eq_some_iff.mp h
    obtain ⟨w, hw, h⟩ := Option.bind_eq_some_iff.mp h
    obtain ⟨text, htext, h⟩ := Option.bind_eq_some_iff.mp h
    obtain ⟨hne, hmessage⟩ := Option.ite_none_left_eq_some.mp h
    obtain rfl := Option.some.inj hmessage
    obtain ⟨o, hspells, hread⟩ := Json.Decoder.decode_eq_ok_iff.mp (Json.eq_ok_of_toOption hv)
    cases v with
    | object ms =>
      obtain ⟨members, -, -, rfl, -, -, -⟩ := Json.exists_object_of_value hread
      have hmember := (member?_of_object "message" hread).symm.trans hw
      obtain ⟨last, hlast, hvalue⟩ := Option.bind_eq_some_iff.mp hmember
      cases w with
      | string s =>
        obtain rfl := Option.some.inj htext
        obtain rfl := Json.value_eq_string_iff.mp (Json.eq_ok_of_toOption hvalue)
        exact ⟨⟨members, hspells, (Json.exists_value_iff _ _).mp ⟨_, hread⟩, hlast⟩, hne⟩
      | _ => cases htext
    | _ => cases hw
  · rintro ⟨⟨members, hspells, hreadable, hlast⟩, hne⟩
    obtain ⟨v, hv⟩ := (Json.exists_value_iff _ _).mpr hreadable
    have hdecode : Json.Decoder.value.decode body = .ok v := by rw [Json.Decoder.decode_of_spells hspells]; exact hv
    have hmember := member?_of_object "message" hv
    rw [hlast] at hmember
    rw [serverMessage?, hdecode]
    show (do let message ← (← v.member? "message").string?; if message = "" then none else some message) = _
    rw [hmember]
    exact if_neg hne

/-- The outcome that a reply to a request must have: the result, and the session if it was `s` before. -/
inductive Outcome (request : Request) (s : Session) : Reply → Result String → Session → Prop
  | unanswered (failure : TransportFailure) : Outcome request s (.failed failure) (.error (.transport failure)) s
  | success {status : UInt16} {body : String} : 200 ≤ status.toNat → status.toNat < 300 →
      Outcome request s (.answered ⟨status, body⟩) (.ok body) s
  | refused (body : String) :
      Outcome request s (.answered ⟨401, body⟩) (.error .unauthorized) ⟨none, s.refusals + 1⟩
  | explained {status : UInt16} {body message : String} : ¬(200 ≤ status.toNat ∧ status.toNat < 300) → status ≠ 401 →
      Explains body message → Outcome request s (.answered ⟨status, body⟩) (.error (.rejected status message)) s
  | unexplained {status : UInt16} {body : String} : ¬(200 ≤ status.toNat ∧ status.toNat < 300) → status ≠ 401 →
      (∀ message, ¬Explains body message) → Outcome request s (.answered ⟨status, body⟩)
        (.error (.rejected status (genericMessage ++ "\n" ++ request.pathAndQuery))) s

section

variable {request : Request} {s : Session}

/-- A reply has an outcome, which is what the client makes of it. -/
theorem outcome_verdict (request : Request) (s : Session) (reply : Reply) :
    Outcome request s reply (verdict request reply) (s.hear reply) := by
  match reply with
  | .failed failure => exact .unanswered failure
  | .answered ⟨status, body⟩ =>
    by_cases hsuccess : 200 ≤ status.toNat ∧ status.toNat < 300
    · have his : (Response.mk status body).isSuccess = true := Response.isSuccess_iff.mpr hsuccess
      rw [Session.hear, Reply.isRefusal_of_isSuccess his, verdict, if_pos his]
      exact .success hsuccess.1 hsuccess.2
    have his : (Response.mk status body).isSuccess = false := Response.isSuccess_eq_false hsuccess
    by_cases hrefused : status = 401
    · subst hrefused
      exact .refused body
    have hhear : s.hear (.answered ⟨status, body⟩) = s := Session.hear_eq_self_iff.mpr (decide_eq_false hrefused)
    rw [hhear, verdict, his, if_neg Bool.false_ne_true, if_neg hrefused, rejection]
    cases hmessage : serverMessage? body with
    | some message => exact .explained hsuccess hrefused (serverMessage?_eq_some_iff.mp hmessage)
    | none =>
      refine .unexplained hsuccess hrefused fun message h => ?_
      rw [serverMessage?_eq_some_iff.mpr h] at hmessage
      cases hmessage

/-- What a reply must come to is what the client makes of it. -/
theorem Outcome.eq_verdict {reply : Reply} {result : Result String} {session : Session}
    (h : Outcome request s reply result session) : verdict request reply = result ∧ s.hear reply = session := by
  cases h with
  | unanswered failure => exact ⟨rfl, rfl⟩
  | @success status body hle hlt =>
    have his : (Response.mk status body).isSuccess = true := Response.isSuccess_iff.mpr ⟨hle, hlt⟩
    exact ⟨if_pos his, Session.hear_eq_self_iff.mpr (Reply.isRefusal_of_isSuccess his)⟩
  | refused body => exact ⟨rfl, rfl⟩
  | @explained status body message hother hrefused hexplains =>
    refine ⟨?_, Session.hear_eq_self_iff.mpr (decide_eq_false hrefused)⟩
    rw [verdict, Response.isSuccess_eq_false hother, if_neg Bool.false_ne_true, if_neg hrefused, rejection,
      serverMessage?_eq_some_iff.mpr hexplains, Option.getD_some]
  | @unexplained status body hother hrefused hnone =>
    refine ⟨?_, Session.hear_eq_self_iff.mpr (decide_eq_false hrefused)⟩
    have hmessage : serverMessage? body = none :=
      Option.eq_none_iff_forall_ne_some.mpr fun message h => hnone message (serverMessage?_eq_some_iff.mp h)
    rw [verdict, Response.isSuccess_eq_false hother, if_neg Bool.false_ne_true, if_neg hrefused, rejection, hmessage,
      Option.getD_none]

/-- An error status always comes with a text. -/
theorem Outcome.message_ne_empty {reply : Reply} {status : UInt16} {message : String} {session : Session}
    (h : Outcome request s reply (.error (.rejected status message)) session) : message ≠ "" := by
  cases h with
  | explained _ _ hexplains => exact hexplains.ne_empty
  | unexplained _ _ _ =>
    intro hempty
    have hlist := congrArg String.toList hempty
    rw [String.append_assoc, String.toList_append] at hlist
    exact absurd (List.append_eq_nil_iff.mp hlist).1 (by decide)

end

/-- A call of the client is one request. What it gives back and what it does to the session is the outcome of the reply,
and an error status never comes without a text. -/
theorem outcome_run_get {σ : Type} (env : Environment σ) (config : Config) (path : String) (query : Query)
    (w : World σ) :
    let request := request config path query w.session.token
    let reply := (env.answer w.server request).1
    let run := (get config path query).run env w
    run.2.trace = w.trace ++ [.tokenAsked, .sent request, .received reply] ∧
      (∀ result session, run.1 = result ∧ run.2.session = session ↔ Outcome request w.session reply result session) ∧
      ∀ status message, run.1 = .error (.rejected status message) → message ≠ "" := by
  intro request reply run
  have hrun : run = (verdict request reply, { (w.call env request).2 with session := w.session.hear reply }) :=
    run_get env config path query w
  have hiff (result : Result String) (session : Session) :
      run.1 = result ∧ run.2.session = session ↔ Outcome request w.session reply result session := by
    rw [hrun]
    constructor
    · rintro ⟨rfl, rfl⟩
      exact outcome_verdict request w.session reply
    · exact Outcome.eq_verdict
  refine ⟨by rw [hrun]; exact World.trace_call env w request, hiff, fun status message h => ?_⟩
  exact ((hiff _ run.2.session).mp ⟨h, rfl⟩).message_ne_empty

/-- A server that answers everything in one way, and nobody who aborts. -/
def answering (status : UInt16) (body : String) : Environment Unit where
  answer _ _ := (.answered ⟨status, body⟩, ())
  aborts _ := false

/-- Two members `message`, the second one with an escape. -/
def twoMessages : String := "\x7b\"message\": \"a\", \"message\": \"b\\u0021\"\x7d"

theorem explains_twoMessages : Explains twoMessages "b!" where
  object := by
    refine ⟨[(some "message", .text (some "a")), (some "message", .text (some "b!"))], ?_, ?_, rfl⟩
    · exact Json.ofText_eq_iff.mp (by cbv)
    · exact Json.readable_object_iff.mpr ⟨by simp [← Json.exists_value_iff, Outline.value], rfl⟩
  ne_empty := by decide

/-- The second message counts, and the session keeps its token. -/
theorem outcome_run_get_twoMessages :
    let run := (get {} "/data/x" [("page", "1")]).run (answering 503 twoMessages) ⟨(), ⟨some "ST-42", 0⟩, {}, false, []⟩
    run.1 = .error (.rejected 503 "b!") ∧ run.2.session = ⟨some "ST-42", 0⟩ :=
  ((outcome_run_get (answering 503 twoMessages) {} "/data/x" [("page", "1")] _).2.1 _ _).mpr
    (.explained (by decide) (by decide) explains_twoMessages)

end Client

end SeriesExport
