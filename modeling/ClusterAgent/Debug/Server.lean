/-
The debug server: binding its address, and draining its connections.

* `DebugServer.start` — bind the address; a server that cannot be bound does not
  serve, which is logged and hurts nobody;
* `DebugServer.drain`, `Drain.settle` — wait until no connection is open, but not
  longer than the grace;
* `ServerRun` — a server with its connections in the course of time.

Design notes: an address without a host is bound for every interface, and only
for those of version 4 if the other version cannot be bound.
-/
import ClusterAgent.Agent.Fault
import ClusterAgent.Config.BindAddress
import ClusterAgent.Net.Binding
import ClusterAgent.Telemetry.Notice
import ClusterAgent.Time.Clock

namespace ClusterAgent

/-- A debug server; without an address it does not serve. -/
structure DebugServer where
  address : Option SocketAddress
deriving DecidableEq

namespace DebugServer

/-- Bind an address. -/
def bind (binder : Binder) (a : BindAddress) : Except Cause SocketAddress × List Notice :=
  match a.host with
  | some host => (binder host a.port, [])
  | none =>
    match binder "::" a.port with
    | .ok address => (.ok address, [])
    | .error cause => (binder "0.0.0.0" a.port, [.logged (.wildcardFallback cause.text)])

/-- Start a server. -/
def start (binder : Binder) (a : BindAddress) : DebugServer × List Notice :=
  let (bound, ns) := bind binder a
  match bound with
  | .ok address => (⟨some address⟩, ns ++ [.logged (.serving ("Some(" ++ address.text ++ ")"))])
  | .error cause => (⟨none⟩, ns ++ [.logged (.servingFailed (ServerFault.bind a cause).message)])

end DebugServer

/-- How far the draining of a server is. -/
inductive Drain where
  /-- Connections are open; time runs out at a millisecond, if ever. -/
  | pending (grace : Span) (runsOut : Option Nat)
  | ended (outcome : Except TeardownFault Unit)

namespace Drain

/-- What becomes of a draining at a millisecond with that many connections open. -/
def settle (ms connections : Nat) : Drain → Drain
  | pending grace runsOut =>
    if connections = 0 then ended (.ok ())
    else if runsOut.any (· ≤ ms) then ended (.error (.drainDeadline grace))
    else pending grace runsOut
  | ended outcome => ended outcome

/-- When time runs out. -/
def next : Drain → Option Nat
  | pending _ runsOut => runsOut
  | ended _ => none

end Drain

/-- Begin to drain a server. Without any grace it has no time even if no
connection is open. -/
def DebugServer.drain (s : DebugServer) (ms connections : Nat) (grace : Span) : Drain :=
  match s.address with
  | none => .ended (.ok ())
  | some _ =>
    if grace.isZero then .ended (.error (.drainDeadline grace))
    else
      Drain.settle ms connections (.pending grace (Clock.runsOffAt (Clock.instantOf ms) grace))

/-! ### Servers in the course of time -/

/-- A server, its open connections, and how far its draining is once it has begun. -/
structure ServerRun where
  server : DebugServer
  connections : Nat
  drain : Option Drain

namespace ServerRun

/-- A server that was just started. -/
def new (server : DebugServer) : ServerRun := ⟨server, 0, none⟩

/-- Whether the server serves; one that is being drained is past that. -/
def serving? (r : ServerRun) : Option Bool :=
  if r.drain.isSome then none else some r.server.address.isSome

/-- What becomes of the server at a millisecond with that many connections open. -/
def settle (ms connections : Nat) (r : ServerRun) : ServerRun :=
  { r with connections, drain := r.drain.map (Drain.settle ms connections) }

/-- Shut the server down. -/
def shutDown (ms : Nat) (grace : Span) (r : ServerRun) : ServerRun :=
  { r with drain := some (r.server.drain ms r.connections grace) }

end ServerRun

end ClusterAgent
