import SeriesExport.Dialogue
import SeriesExport.Http.Redirect

/-!
# Scripted servers

A server that answers from a list of replies. The replies for one path are given in their order, each once. Either it
is asked directly (`Script.environment`), or it listens at an address, where what arrives is answered in bytes
(`Service.environment`). What arrives there follows from what has been asked (`Service.after`); by redirections it can
be more.
-/

namespace SeriesExport

structure ScriptedReply where
  path : String
  reply : Reply
  /-- whether the user aborts while this reply is on its way -/
  aborts : Bool := false

abbrev Script := List ScriptedReply

namespace Script

/-- The first reply for a path, and the script without it. -/
def take? (path : String) : Script → Option (Reply × Script)
  | [] => none
  | r :: script =>
    if r.path = path then some (r.reply, script) else (take? path script).map fun (reply, rest) => (reply, r :: rest)

/-- Answers from the script, and with `missing` if it has nothing for the path. -/
def answer (path : String) (missing : Reply) (script : Script) : Reply × Script :=
  (take? path script).getD (missing, script)

/-- Whether the user aborts at the end of the history: a request has just been sent, and its reply is one that the
user aborts while waiting for. -/
def abortsAt (script : Script) (history : List Event) : Bool :=
  match history.reverse with
  | .sent request :: earlier =>
    let asked := earlier.countP fun
      | .sent r => r.path = request.path
      | _ => false
    match (script.filter fun r => r.path = request.path)[asked]? with
    | some r => r.aborts
    | none => false
  | _ => false

/-- A server that answers every request by its path alone; `missing` says what it replies to a path without a reply. -/
def environment (missing : String → Reply) (aborts : List Event → Bool) : Environment Script where
  answer script request := script.answer request.path (missing request.path)
  aborts := aborts

end Script

/-! ## Over the network -/

/-- What a server sends back: nothing, if it only closes the connection. -/
def Reply.bytes : Reply → List UInt8
  | .answered response => Http.responseBytes response
  | .failed _ => []

/-- Where a server can be reached, and what it replies to a path without a reply. -/
structure Listener where
  host : Http.Host
  port : Nat
  missing : Reply

/-- Whether a request arrives. -/
def Listener.isReachedBy (l : Listener) (wire : Http.WireRequest) : Bool :=
  Http.Host.lookedUp wire.address.host = l.host && wire.address.port = l.port

/-- A server at work. -/
structure Service where
  script : Script
  /-- what has arrived, in its order -/
  arrivals : List Http.WireRequest := []

namespace Service

/-- What a request that is sent brings back. Nothing but the listener can be reached. -/
def send (l : Listener) (wire : Http.WireRequest) : StateM Service (List UInt8) := fun s =>
  if l.isReachedBy wire then
    let (reply, script) := s.script.answer (String.ofList wire.address.path) l.missing
    (reply.bytes, { script, arrivals := s.arrivals ++ [wire] })
  else ([], s)

/-- What comes of a request. -/
def answer (l : Listener) (s : Service) (request : Request) : Reply × Service :=
  match Http.Errand.ofRequest? request with
  | none => (.failed .connection, s)
  | some errand => Id.run ((errand.run (send l) Http.Errand.redirectLimit).run s)

def environment (l : Listener) (aborts : List Event → Bool) : Environment Service where
  answer := answer l
  aborts := aborts

/-- The server behind a history. -/
def after (l : Listener) (s : Service) (history : List Event) : Service :=
  history.foldl (fun s e => match e with
    | .sent request => (s.answer l request).2
    | _ => s) s

/-- Whether the `n`-th request arrives because of the last event of the history. -/
def endsWithArrival (l : Listener) (s : Service) (n : Nat) (history : List Event) : Bool :=
  (s.after l history.dropLast).arrivals.length < n && n ≤ (s.after l history).arrivals.length

end Service

end SeriesExport
