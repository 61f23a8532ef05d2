/-
The life of the agent, from a resolved configuration to a finished teardown.

The controller starts first and the debug server after it.  Then the agent waits
until it is asked to shut down.  It stops the controller, and only when that is
done it drains the debug server.

* `Agent.step` — what an input does;
* `Agent.run` — what a sequence of inputs does.

Design notes: what others do is input: a trigger from outside, the answer of the
controller, the binding of an address, the end of the draining.  An input for which
it is not the time does nothing, so any sequence of inputs is a life.  A failed start
ends the agent; what fails during the teardown is logged and holds up nothing.
-/
import ClusterAgent.Agent.Journal
import ClusterAgent.Agent.Slot
import ClusterAgent.Config.Configuration
import ClusterAgent.Debug.Server

namespace ClusterAgent

/-- How far the agent is. -/
inductive AgentPhase where
  | ready
  | starting
  /-- The controller runs, and the debug server is about to be started. -/
  | binding
  | waiting (server : DebugServer)
  | stopping (server : DebugServer)
  | draining (server : DebugServer)
  | ended (result : Except StartFault Unit)

/-- The agent. -/
structure Agent where
  config : Configuration
  slot : Slot
  coordinator : Coordinator
  journal : Journal
  phase : AgentPhase

/-- What happens to the agent. -/
inductive AgentInput where
  | run
  | started (outcome : Except StartFault Unit)
  /-- The debug server is started, with addresses bound in this way. -/
  | bound (binder : Binder)
  /-- A handle from outside asks to shut down. -/
  | trigger
  /-- A handle is made or dropped outside. -/
  | clone
  | drop
  /-- Someone outside leaves the running state. -/
  | beginShutdown
  /-- The agent looks whether it was asked to shut down. -/
  | look
  | stopped (outcome : Except StopFault Unit)
  | drained (outcome : Except TeardownFault Unit)

/-- What the agent does to others. -/
inductive AgentCall where
  | startController (options : ControllerOptions)
  | stopController
  | drainServer (server : DebugServer) (grace : Span)

/-- What the agent does. -/
inductive AgentEffect where
  | notice (n : Notice)
  | call (c : AgentCall)

namespace Agent

/-- An agent that holds the only handle of its own slot. -/
def new (config : Configuration) : Agent := ⟨config, Slot.new, .running, Journal.empty, .ready⟩

/-- Record a step in the journal. -/
def record (a : Agent) (e : LifecycleEvent) : Agent × List AgentEffect :=
  let (journal, ns) := a.journal.record e
  ({ a with journal }, ns.map .notice)

/-- The controller runs: the debug server comes next. -/
def bind (a : Agent) : Agent × List AgentEffect :=
  let (a, recorded) := a.record .controllerStarted
  ({ a with phase := .binding }, recorded)

/-- Start the debug server and wait. -/
def serve (a : Agent) (binder : Binder) : Agent × List AgentEffect :=
  let (server, ns) := DebugServer.start binder a.config.debugAddr
  let (a, recorded) := a.record (.debugServerStarted server.address)
  ({ a with phase := .waiting server }, ns.map .notice ++ recorded ++ [.notice (.logged .waiting)])

/-- The agent was asked to shut down: stop the controller. -/
def shutDown (a : Agent) (server : DebugServer) : Agent × List AgentEffect :=
  let (won, coordinator) := a.coordinator.begin
  let warning : List AgentEffect := if won then [] else [.notice (.logged .alreadyShuttingDown)]
  let (a, recorded) := { a with coordinator }.record .shutdownRequested
  ({ a with phase := .stopping server }, warning ++ recorded ++ [.call .stopController])

/-- A step of the teardown failed. -/
def complain (stage : String) (event : LogEvent) : List AgentEffect :=
  [.notice (.measured (.shutdownError stage)), .notice (.logged event)]

/-- The controller stopped: drain the debug server. -/
def drainServer (a : Agent) (server : DebugServer) (outcome : Except StopFault Unit) :
    Agent × List AgentEffect :=
  let complaint := match outcome with
    | .ok () => []
    | .error fault => complain "controller" (.stopFailed (TeardownFault.controller fault).message)
  let (a, recorded) := a.record .controllerStopped
  ({ a with phase := .draining server },
    complaint ++ recorded ++ [.call (.drainServer server a.config.shutdownGrace)])

/-- The debug server is drained: the end. -/
def finish (a : Agent) (outcome : Except TeardownFault Unit) : Agent × List AgentEffect :=
  let complaint := match outcome with
    | .ok () => []
    | .error fault => complain "debug_server" (.drainFailed fault.message)
  let (a, recorded) := a.record .debugServerStopped
  ({ a with phase := .ended (.ok ()) },
    complaint ++ recorded ++ [.notice (.logged .shutdownComplete)])

/-- What an input does. -/
def step (a : Agent) (i : AgentInput) : Agent × List AgentEffect :=
  match i, a.phase with
  | .run, .ready =>
    ({ a with phase := .starting }, [.call (.startController a.config.controllerOptions)])
  | .started (.ok ()), .starting => a.bind
  | .started (.error fault), .starting => ({ a with phase := .ended (.error fault) }, [])
  | .bound binder, .binding => a.serve binder
  | .trigger, _ => ({ a with slot := a.slot.trigger.2 }, [])
  | .clone, _ => ({ a with slot := { a.slot with holders := a.slot.holders + 1 } }, [])
  | .drop, _ =>
    -- The agent keeps a handle of its own.
    ({ a with slot := { a.slot with holders := max 1 (a.slot.holders - 1) } }, [])
  | .beginShutdown, _ => ({ a with coordinator := a.coordinator.begin.2 }, [])
  | .look, .waiting server => if a.slot.ready then a.shutDown server else (a, [])
  | .stopped outcome, .stopping server => a.drainServer server outcome
  | .drained outcome, .draining _ => a.finish outcome
  | _, _ => (a, [])

/-- What a sequence of inputs does. -/
def run (a : Agent) : List AgentInput → Agent × List AgentEffect
  | [] => (a, [])
  | i :: rest =>
    let (a, effects) := a.step i
    let (a, more) := a.run rest
    (a, effects ++ more)

/-- How the agent ended, if it did. -/
def result? (a : Agent) : Option (Except StartFault Unit) :=
  match a.phase with
  | .ended result => some result
  | _ => none

theorem run_append (a : Agent) (xs ys : List AgentInput) :
    a.run (xs ++ ys) =
      let front := a.run xs
      let back := front.1.run ys
      (back.1, front.2 ++ back.2) := by
  induction xs generalizing a with
  | nil => simp [run]
  | cons i rest ih => simp [run, ih]

end Agent

end ClusterAgent
