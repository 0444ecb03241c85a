import SeriesExport.Http.Request
import SeriesExport.Progress
import SeriesExport.Session

/-!
# Dialogues

What an export does to the world outside is a conversation: it sends requests one at a time and waits for each reply,
asks the session for its token, reports progress, and asks whether it has been aborted. A `Dialogue` is such a
conversation before it takes place, with a continuation for every reply. Every dialogue ends.

`Dialogue.run` holds it with an `Environment`: a server with a state of its own, and somebody who may use the abort
handle at any time. What happens is written down in the order in which it happens (`World.trace`).
-/

namespace SeriesExport

inductive Dialogue (α : Type) where
  | done (result : α)
  /-- asks the session for its token -/
  | token (next : Option String → Dialogue α)
  /-- tells the session that the server has refused it -/
  | refuse (next : Dialogue α)
  /-- sends a request and waits for the reply -/
  | ask (request : Request) (next : Reply → Dialogue α)
  | report (change : Progress.Change) (next : Dialogue α)
  /-- asks whether the abort handle has been used -/
  | aborted (next : Bool → Dialogue α)

namespace Dialogue

def bind {α β : Type} : Dialogue α → (α → Dialogue β) → Dialogue β
  | .done a, f => f a
  | .token next, f => .token fun t => (next t).bind f
  | .refuse next, f => .refuse (next.bind f)
  | .ask request next, f => .ask request fun reply => (next reply).bind f
  | .report change next, f => .report change (next.bind f)
  | .aborted next, f => .aborted fun b => (next b).bind f

instance : Monad Dialogue where
  pure := .done
  bind := bind

theorem bind_done {α : Type} : ∀ d : Dialogue α, d.bind .done = d
  | .done _ => rfl
  | .token next => congrArg Dialogue.token (funext fun t => bind_done (next t))
  | .refuse next => congrArg Dialogue.refuse (bind_done next)
  | .ask request next => congrArg (Dialogue.ask request) (funext fun reply => bind_done (next reply))
  | .report change next => congrArg (Dialogue.report change) (bind_done next)
  | .aborted next => congrArg Dialogue.aborted (funext fun b => bind_done (next b))

theorem bind_assoc {α β γ : Type} (f : α → Dialogue β) (g : β → Dialogue γ) : ∀ d : Dialogue α,
    (d.bind f).bind g = d.bind fun a => (f a).bind g
  | .done _ => rfl
  | .token next => congrArg Dialogue.token (funext fun t => bind_assoc f g (next t))
  | .refuse next => congrArg Dialogue.refuse (bind_assoc f g next)
  | .ask request next => congrArg (Dialogue.ask request) (funext fun reply => bind_assoc f g (next reply))
  | .report change next => congrArg (Dialogue.report change) (bind_assoc f g next)
  | .aborted next => congrArg Dialogue.aborted (funext fun b => bind_assoc f g (next b))

instance : LawfulMonad Dialogue :=
  LawfulMonad.mk' Dialogue (fun d => bind_done d) (fun _ _ => rfl) (fun d f g => bind_assoc f g d)

/-! ## Single steps -/

def getToken : Dialogue (Option String) := .token .done

def refuseSession : Dialogue Unit := .refuse (.done ())

def send (request : Request) : Dialogue Reply := .ask request .done

def reportProgress (change : Progress.Change) : Dialogue Unit := .report change (.done ())

def isAborted : Dialogue Bool := .aborted .done

end Dialogue

/-! ## The world outside -/

/-- What an observer of an export can see. -/
inductive Event where
  /-- the session has been asked for its token -/
  | tokenAsked
  | sent (request : Request)
  | received (reply : Reply)
  | progressed (progress : Progress)
  deriving DecidableEq, Repr

/-- A server whose answer depends on its state, and a user who may decide to abort after anything that has happened:
also when the session has been asked for the token of a request that is not yet sent. -/
structure Environment (σ : Type) where
  answer : σ → Request → Reply × σ
  /-- whether the abort handle is used at the end of a history -/
  aborts : List Event → Bool

structure World (σ : Type) where
  server : σ
  session : Session := {}
  progress : Progress := {}
  /-- whether the abort handle has been used; it is never taken back -/
  cancelled : Bool := false
  trace : List Event := []

namespace World

variable {σ : Type}

/-- The world after something has happened. -/
def record (env : Environment σ) (e : Event) (w : World σ) : World σ :=
  let trace := w.trace ++ [e]
  { w with trace, cancelled := w.cancelled || env.aborts trace }

/-- The requests in the order in which they were sent. -/
def requests (w : World σ) : List Request :=
  w.trace.filterMap fun
    | .sent request => some request
    | _ => none

/-- The reports of progress in their order. -/
def reports (w : World σ) : List Progress :=
  w.trace.filterMap fun
    | .progressed p => some p
    | _ => none

/-- The requests that have no reply yet. -/
def inFlight (w : World σ) : Nat :=
  w.trace.foldl (fun n e => match e with
    | .sent _ => n + 1
    | .received _ => n - 1
    | _ => n) 0

end World

/-- Holds a dialogue with an environment. -/
def Dialogue.run {σ α : Type} (env : Environment σ) : Dialogue α → World σ → α × World σ
  | .done a, w => (a, w)
  | .token next, w => (next w.session.token).run env (w.record env .tokenAsked)
  | .refuse next, w => next.run env { w with session := w.session.refuse }
  | .ask request next, w =>
    let w := w.record env (.sent request)
    let (reply, server) := env.answer w.server request
    (next reply).run env ({ w with server }.record env (.received reply))
  | .report change next, w =>
    let progress := w.progress.apply change
    next.run env ({ w with progress }.record env (.progressed progress))
  | .aborted next, w => (next w.cancelled).run env w

/-- One dialogue after the other is the run of the one and then of the other. -/
theorem Dialogue.run_bind {σ α β : Type} (env : Environment σ) (f : α → Dialogue β) : ∀ (d : Dialogue α) (w : World σ),
    (d.bind f).run env w = (f (d.run env w).1).run env (d.run env w).2
  | .done _, _ => rfl
  | .token next, _ => run_bind env f (next _) _
  | .refuse next, _ => run_bind env f next _
  | .ask _ next, _ => run_bind env f (next _) _
  | .report _ next, _ => run_bind env f next _
  | .aborted next, w => run_bind env f (next w.cancelled) w

end SeriesExport
