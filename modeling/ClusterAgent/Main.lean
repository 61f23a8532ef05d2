/-
The program at work: arguments, files, sockets, signals and time.

Everything that is decided is decided elsewhere; here the outside is asked, and
what the program has to say is written down.

* `gather` — the files and variables that the flags lead to;
* `Host` — the program in its place, which takes turns with what happens;
* `main` — from the arguments to the exit code.

Design notes: whether the program comes to listen at all is found by a rehearsal
that binds nothing, so a socket is bound only if it will be used.  The control
plane is not spoken to, and every request to it fails.
-/
import ClusterAgent.Debug.Message
import ClusterAgent.Program
import Std.Async.DNS
import Std.Async.Signal
import Std.Async.TCP
import Std.Async.Timer
import Std.Sync.Mutex

namespace ClusterAgent.Outside

open Std.Async

/-! ### Files and variables -/

/-- The fault behind a failed reading. -/
def fileFault : IO.Error → FileFault
  | .noFileOrDirectory .. => .missing
  | .permissionDenied .. => .denied
  | .inappropriateType .. => .directory
  | e => .other e.toString

/-- Read a file. -/
def contentOf (path : String) : BaseIO (Except FileFault (List UInt8)) := do
  match ← (IO.FS.readBinFile path).toBaseIO with
  | .ok bytes => return .ok bytes.toList
  | .error e => return .error (fileFault e)

/-- Read files and variables. -/
def read (paths names : List String) : BaseIO Environment := do
  let files ← paths.mapM fun path => return (path, ← contentOf path)
  let values ← names.mapM fun name => return (name, ← IO.getEnv name)
  return {
    valueOf := fun name => (values.lookup name).join
    contentOf := fun path => (files.lookup path).getD (.error .missing) }

/-- The variable that asks for a filter of log entries. -/
def filterVariable : String := "RUST_LOG"

/-- The files and variables that the flags lead to. -/
def gather (f : Flags) : BaseIO Environment := do
  let names := filterVariable :: InCluster.variableNames ++ Kubeconfig.proxyVariables
  let paths := if f.clientConfigPath = "" then InCluster.paths else [f.clientConfigPath]
  let env ← read paths names
  match Kubeconfig.read env f.clientConfigPath with
  | .ok kubeconfig => read (paths ++ kubeconfig.paths) names
  | .error _ => return env

/-! ### Sockets -/

/-- An address as sockets take it. -/
def socketAddress : SocketAddress → Std.Net.SocketAddress
  | ⟨.v4 a b c d, _, port⟩ => .v4 ⟨⟨#v[a, b, c, d]⟩, port⟩
  | ⟨.v6 groups, _, port⟩ => .v6 ⟨⟨groups⟩, port⟩

/-- An address as sockets tell it. -/
def ofSocketAddress : Std.Net.SocketAddress → SocketAddress
  | .v4 a =>
    let octets := a.addr.octets
    ⟨.v4 octets[0] octets[1] octets[2] octets[3], 0, a.port⟩
  | .v6 a => ⟨.v6 a.addr.segments, 0, a.port⟩

/-- Why nothing can be bound. -/
def bindingCause : IO.Error → Cause
  | .resourceBusy .. => BindingFault.taken.asCause
  | .permissionDenied .. => BindingFault.denied.asCause
  | e => Cause.of e.toString

/-- Listen at an address. -/
def listen (address : SocketAddress) : IO (TCP.Socket.Server × SocketAddress) := do
  let server ← TCP.Socket.Server.mk
  server.bind (socketAddress address)
  server.listen 1024
  return (server, ofSocketAddress (← server.getSockName))

/-- The addresses of a host. -/
def addressesOf (host : String) : Async (List IpAddress) := do
  match IpAddress.parse? host with
  | some ip => return [ip]
  | none =>
    let found ← DNS.getAddrInfo host ""
    return found.toList.map fun
      | .v4 a => (ofSocketAddress (.v4 ⟨a, 0⟩)).ip
      | .v6 a => (ofSocketAddress (.v6 ⟨a, 0⟩)).ip

/-- Listen at the first address of a host that can be listened at. -/
def listenAtAny (port : UInt16) :
    List IpAddress → IO (Except Cause (TCP.Socket.Server × SocketAddress))
  | [] => return .error (Cause.of "could not resolve to any address")
  | ip :: rest => do
    match ← (listen ⟨ip, 0, port⟩).toBaseIO with
    | .ok bound => return .ok bound
    | .error e => if rest.isEmpty then return .error (bindingCause e) else listenAtAny port rest

/-- Listen at a host. -/
def listenAt (host : String) (port : UInt16) :
    IO (Except Cause (TCP.Socket.Server × SocketAddress)) := do
  match ← (addressesOf host).block.toBaseIO with
  | .ok ips => listenAtAny port ips
  | .error _ => return .error BindingFault.unknownHost.asCause

/-- Everything that the debug server may try to listen at, until one succeeds. -/
def listenFor (a : BindAddress) :
    IO (List (String × Except Cause (TCP.Socket.Server × SocketAddress))) := do
  let hosts := match a.host with
    | some host => [host]
    | none => ["::", "0.0.0.0"]
  let mut tried := []
  for host in hosts do
    let outcome ← listenAt host a.port
    tried := tried ++ [(host, outcome)]
    if outcome.isOk then break
  return tried

/-! ### The program in its place -/

/-- What changes while the program runs. -/
structure Host where
  program : Program Float
  registry : Registry
  /-- The millisecond up to which time has passed for the program. -/
  now : Nat

/-- What does not change. -/
structure Place where
  host : Std.Mutex Host
  filter : Filter
  format : LogFormat
  exit : IO.Promise ExitCode

namespace Place

/-- Write log entries down. -/
def write (filter : Filter) (format : LogFormat) (effects : List AgentEffect) : IO Unit := do
  let output ← IO.getStdout
  for event in (logsOf (effects.filterMap AgentEffect.notice?)).filter filter.admits do
    output.putStrLn (format.line event)
  output.flush

/-- Something happens to the program at its time. -/
def turn (p : Place) (event : Nat → Program Float → Program Float × List AgentEffect) : IO Unit :=
  p.host.atomically do
    let h ← get
    let now ← IO.monoMsNow
    let (program, passed) := h.program.advance h.now now
    let (program, effects) := event now program
    let effects := passed ++ effects
    write p.filter p.format effects
    set ({ program, registry := h.registry.recordAll (effects.filterMap AgentEffect.notice?), now }
      : Host)
    if let some code := program.exitCode? then p.exit.resolve code

/-- One more or one less connection is open. -/
def connections (p : Place) (change : Nat → Nat) : IO Unit :=
  p.turn fun now program =>
    match program with
    | .running s => program.connect now (change s.connections)
    | .exited _ => (program, [])

/-- The answer to a request. -/
def answer (p : Place) (c : Configuration) (head : String) : IO HttpResponse :=
  match HttpRequest.ofHead? head with
  | none => return HttpResponse.badRequest
  | some request =>
    p.host.atomically do
      let h ← get
      let (registry, response) := Endpoint.serve h.registry c.snapshot request.method request.path
      set { h with registry }
      return response

end Place

/-- Receive the head of a request. -/
partial def receive (client : TCP.Socket.Client) (received : String) : Async String := do
  if HttpRequest.hasHead received || received.length > 65536 then return received
  match ← client.recv? 4096 with
  | some bytes => receive client (received ++ (String.fromUTF8? bytes).getD "")
  | none => return received

/-- Answer the one request of a connection. -/
def converse (p : Place) (c : Configuration) (client : TCP.Socket.Client) : Async Unit := do
  try
    let head ← receive client ""
    let response ← p.answer c head
    client.send response.encode.toUTF8
    client.shutdown
  catch _ => pure ()
  p.connections (· - 1)

/-- Take connections as they come. -/
partial def accept (p : Place) (c : Configuration) (server : TCP.Socket.Server) : Async Unit := do
  let client ← server.accept
  p.connections (· + 1)
  background (converse p c client)
  accept p c server

/-- What waits for each of the two signals. -/
def listenToSignals : IO (Std.Async.Signal.Waiter × Std.Async.Signal.Waiter) :=
  return (← Std.Async.Signal.Waiter.mk .sigint true, ← Std.Async.Signal.Waiter.mk .sigterm true)

/-- Hand over a signal whenever it arrives. -/
partial def heed (p : Place) (waiter : Std.Async.Signal.Waiter) (s : Signal) : Async Unit := do
  let _ ← await (← waiter.wait)
  p.turn fun now program => program.signal now s
  heed p waiter s

/-- Let the program know from time to time that time passes. -/
partial def tick (p : Place) : Async Unit := do
  sleep 5
  p.turn fun _ program => (program, [])
  tick p

/-- Run the program with flags. -/
def run (f : Flags) : IO ExitCode := do
  let environment ← gather f
  let answer (_ : String) : Fetched := .failure "client error (Connect)"
  let signals ← listenToSignals.toBaseIO
  let listener := (signals.map fun _ => ()).mapError fun e => Cause.of e.toString
  let now ← IO.monoMsNow
  let begin (binder : Binder) : Progress Float :=
    Program.start (Provision.builtin ⟨environment, answer, binder⟩ RateLimit.limits listener) f now
  let filter := Filter.ofVariable (environment.valueOf filterVariable)
  let rehearsal := begin fun _ _ => .error (Cause.of "")
  match f.resolve, rehearsal.program, signals with
  | .ok c, .running _, .ok (interrupts, terminations) =>
    let tried ← listenFor c.debugAddr
    let outcomes := tried.map fun (host, outcome) => (host, outcome.map (·.2))
    let began := begin fun host _ =>
      (outcomes.lookup host).getD (.error (Cause.of "could not resolve to any address"))
    Place.write filter f.logFormat began.effects
    let notices := began.effects.filterMap AgentEffect.notice?
    let host : Host := ⟨began.program, (Registry.empty true).recordAll notices, now⟩
    let place : Place := ⟨← Std.Mutex.new host, filter, f.logFormat, ← IO.Promise.new⟩
    Async.block do
      background (heed place interrupts .interrupt)
      background (heed place terminations .terminate)
      background (tick place)
      for (_, outcome) in tried do
        if let .ok (server, _) := outcome then background (accept place c server)
    return (← IO.wait place.exit.result?).getD .crash
  | _, _, _ =>
    Place.write filter f.logFormat rehearsal.effects
    return rehearsal.program.exitCode?.getD .crash

end ClusterAgent.Outside

open ClusterAgent in
/-- Read the arguments, and run the program if they are taken. -/
def main (arguments : List String) : IO UInt32 := do
  match Flags.ofArguments arguments with
  | .ok flags => return UInt32.ofNat (← Outside.run flags).number
  | .error refusal =>
    let farewell := refusal.farewell
    (← IO.getStdout).putStr farewell.output
    if farewell.complaint ≠ "" then (← IO.getStderr).putStrLn farewell.complaint
    return UInt32.ofNat farewell.code.number
