import SeriesExport.CommandLine.Run
import SeriesExport.Http.Redirect
import SeriesExport.Output.Zip
import Std.Async.DNS
import Std.Async.Signal
import Std.Async.TCP
import Std.Async.Timer

/-!
# The program

Holds the dialogue of a command with a server over TCP, and reads and writes files. Ctrl-C is the abort handle, but only
from the moment at which a running export first looks at it or reports progress.
-/

namespace SeriesExport

open Std.Async Std.Net

/-- What of the world outside changes while the program runs. -/
structure LiveWorld where
  session : IO.Ref Session
  cancelled : IO.Ref Bool
  watching : IO.Ref Bool

/-! ## The network -/

/-- The bytes that come until the connection is closed. -/
partial def receive (socket : TCP.Socket.Client) (bytes : ByteArray) : Async ByteArray := do
  match ← socket.recv? 65536 with
  | some more => receive socket (bytes ++ more)
  | none => return bytes

def socketAddress (port : UInt16) : IPAddr → SocketAddress
  | .v4 addr => .v4 ⟨addr, port⟩
  | .v6 addr => .v6 ⟨addr, port⟩

/-- A connection to the first of the addresses that accepts one. -/
def connectFirst (port : UInt16) : List IPAddr → Async TCP.Socket.Client
  | [] => throw (IO.userError "no address accepts a connection")
  | ip :: ips => do
    let socket ← TCP.Socket.Client.mk
    try
      socket.connect (socketAddress port ip)
      return socket
    catch _ => connectFirst port ips

/-- Sends a request and waits until the server has closed the connection. -/
def exchange (r : Http.WireRequest) : Async (List UInt8) := do
  let port := UInt16.ofNat r.address.port
  let ips ← DNS.getAddrInfo r.address.host (toString r.address.port)
  let socket ← connectFirst port ips.toList
  socket.send r.text.toUTF8
  return (← receive socket ByteArray.empty).data.toList

/-- No reply, when the time for it is over. -/
def expire (timeout : UInt64) : Async Reply := do
  let sleep ← Sleep.mk (.ofNat timeout.toNat)
  sleep.wait
  return .failed .connection

instance : Inhabited Reply := ⟨.failed .connection⟩

def fetchReply (request : Request) : IO Reply := do
  match Http.Errand.ofRequest? request with
  | none => return .failed .connection
  | some errand =>
    try (Async.race (errand.run exchange Http.Errand.redirectLimit) (expire request.timeout)).block
    catch _ => return .failed .connection

/-! ## Dialogues -/

/-- From now on Ctrl-C aborts. -/
def LiveWorld.watch (live : LiveWorld) : IO Unit := do
  unless ← live.watching.get do
    live.watching.set true
    let waiter ← Signal.Waiter.mk .sigint false
    let signal ← waiter.wait
    discard <| IO.mapTask (fun _ => live.cancelled.set true) signal

/-- Holds a dialogue with the world outside. -/
def Dialogue.perform {α : Type} (live : LiveWorld) : Dialogue α → IO α
  | .done a => return a
  | .token next => do (next (← live.session.get).token).perform live
  | .refuse next => do
    live.session.modify Session.refuse
    next.perform live
  | .ask request next => do (next (← fetchReply request)).perform live
  | .report _ next => do
    live.watch
    next.perform live
  | .aborted next => do
    live.watch
    (next (← live.cancelled.get)).perform live

/-! ## Files -/

/-- The file at a path, if it can be read. -/
def readFile (path : String) : IO (Option ByteArray) := do
  try return some (← IO.FS.readBinFile path)
  catch _ => return none

/-- Saves an export file in a folder, and says under which path. -/
def saveFile (folder : String) (artifact : Artifact) : IO String := do
  let made := "/".intercalate (Path.made (Path.pieces folder))
  unless made.isEmpty do IO.FS.createDirAll made
  let path := Path.append folder artifact.filename
  IO.FS.writeBinFile path artifact.content.bytes
  return path

namespace CommandLine

/-- Delivers what a command has come to; only files need the disk. -/
def deliverToDisk : Result Product → IO Report
  | .ok (.file artifact folder) => do
    try return { output := (← saveFile folder artifact) ++ "\n" }
    catch _ => return failureReport .io
  | result => return (deliver {} result).1

def reportOn (environmentToken : Option String) (arguments : List String) : IO Report := do
  match Invocation.ofArguments environmentToken arguments with
  | .error stop => return stop.report
  | .ok invocation =>
    let file ← match invocation.configFile with
      | some path => readFile path
      | none => pure none
    match settings (fun _ => file) invocation.toGeneral with
    | .error fault => return .failure fault.message
    | .ok config =>
      let session ← IO.mkRef { token := invocation.token }
      let live : LiveWorld := ⟨session, ← IO.mkRef false, ← IO.mkRef false⟩
      deliverToDisk (← (invocation.command.dialogue config).perform live)

end CommandLine

end SeriesExport

def main (arguments : List String) : IO UInt32 := do
  let report ← SeriesExport.CommandLine.reportOn (← IO.getEnv "HDS_AUTH_TOKEN") arguments
  IO.print report.output
  IO.eprint report.complaint
  return report.exit.toUInt32
