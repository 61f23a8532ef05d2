/-
The journal: an append-only record of the steps of the agent's life.

* `Journal.record` — append a step; it is logged and counted as well;
* `Journal.debugAddr` — where the debug server listens, once it does;
* `Journal.count` — how often a step was taken.

Design notes: the journal is a list of its own, oldest step first.  Whoever holds
it sees the same list.
-/
import ClusterAgent.Net.Address
import ClusterAgent.Telemetry.Notice

namespace ClusterAgent

/-- A step of the agent's life. -/
inductive LifecycleEvent where
  | controllerStarted
  /-- A start of the debug server was tried; without an address it failed. -/
  | debugServerStarted (address : Option SocketAddress)
  | shutdownRequested
  | controllerStopped
  | debugServerStopped
deriving DecidableEq

/-- The name of a step. -/
def LifecycleEvent.name : LifecycleEvent → String
  | .controllerStarted => "controller_started"
  | .debugServerStarted _ => "debug_server_started"
  | .shutdownRequested => "shutdown_requested"
  | .controllerStopped => "controller_stopped"
  | .debugServerStopped => "debug_server_stopped"

/-- The step of a name; only the start of the debug server has an address. -/
def LifecycleEvent.ofName? (name : String) (address : Option SocketAddress) :
    Option LifecycleEvent :=
  [controllerStarted, debugServerStarted address, shutdownRequested, controllerStopped,
    debugServerStopped].find? (·.name == name)

/-- The address that a step makes known. -/
def LifecycleEvent.address? : LifecycleEvent → Option SocketAddress
  | .debugServerStarted address => address
  | _ => none

/-- The steps taken so far, oldest first. -/
structure Journal where
  events : List LifecycleEvent

namespace Journal

/-- No step was taken. -/
def empty : Journal := ⟨[]⟩

/-- Append a step. -/
def record (j : Journal) (e : LifecycleEvent) : Journal × List Notice :=
  (⟨j.events ++ [e]⟩, [.logged (.lifecycleStep e.name), .measured (.lifecycle e.name)])

/-- Where the debug server listens, once it does. -/
def debugAddr (j : Journal) : Option SocketAddress := j.events.findSome? LifecycleEvent.address?

/-- How often a step of that name was taken. -/
def count (j : Journal) (name : String) : Nat := (j.events.filter (·.name == name)).length

theorem count_record (j : Journal) (e : LifecycleEvent) (name : String) :
    (j.record e).1.count name = j.count name + if e.name = name then 1 else 0 := by
  by_cases h : e.name = name <;> simp [count, record, h]

end Journal

end ClusterAgent
