/-
A session: the agent with those it deals with, in the course of time.

* `Session.give` — what an input to the agent does, with all that it sets off at
  once;
* `Session.settle` — everything that is due at a millisecond;
* `Session.advance` — let time pass.

Design notes: the agent makes calls and waits to hear of their outcome.  A session
keeps the calls that are under way: a controller that is about to have stopped
and a server that is being drained.
-/
import ClusterAgent.Agent.Basic
import ClusterAgent.Controller.Station

namespace ClusterAgent

/-- What lies around the agent. -/
structure Surroundings where
  environment : Environment
  /-- What the control plane answers to a request for a path. -/
  answer : String → Fetched
  binder : Binder

/-- Who does the work of the controller. -/
inductive Engine (α : Type) where
  /-- How it starts and stops is settled; it takes its time to stop. -/
  | scripted (starts : Except StartFault Unit) (stops : Except StopFault Unit) (milliseconds : Nat)
  /-- The controllers of this library, whose limits are counted in this way. -/
  | builtin (limits : RateLimit → Limits α) (station : Station α)

/-- The agent and those it deals with. -/
structure Session (α : Type) where
  surroundings : Surroundings
  access : ClusterAccess
  engine : Engine α
  agent : Agent
  /-- The connections to the debug server that are open. -/
  connections : Nat
  /-- When the controller will have stopped, and how. -/
  stopping : Option (Nat × Except StopFault Unit)
  drain : Option Drain

namespace Session

variable {α : Type} [TokenArithmetic α]

/-- An agent that was not run yet. -/
def new (surroundings : Surroundings) (access : ClusterAccess) (engine : Engine α)
    (config : Configuration) : Session α :=
  ⟨surroundings, access, engine, Agent.new config, 0, none, none⟩

/-- Start the controller. -/
def startController (o : ControllerOptions) (ms : Nat)
    (s : Session α) : Session α × Except StartFault Unit × List Notice :=
  match s.engine with
  | .scripted starts .. => (s, starts, [])
  | .builtin limits station =>
    let (station, outcome, ns) :=
      station.launch s.surroundings.environment s.access s.surroundings.answer limits o ms
    ({ s with engine := .builtin limits station }, outcome, ns)

/-- Begin to stop the controller. -/
def stopController (ms : Nat) (s : Session α) : Session α × List Notice :=
  match s.engine with
  | .scripted _ stops delay => ({ s with stopping := some (ms + delay, stops) }, [])
  | .builtin limits station =>
    let (station, outcome, ns) := station.stop ms 0
    ({ s with engine := .builtin limits station, stopping := some (ms, outcome) }, ns)

/-- Do what the agent calls for. -/
def obey (ms : Nat) (s : Session α) :
    AgentCall → Session α × List AgentEffect
  | .startController o =>
    let (s, outcome, ns) := s.startController o ms
    let (agent, started) := s.agent.step (.started outcome)
    let (agent, bound) := agent.step (.bound s.surroundings.binder)
    ({ s with agent }, ns.map .notice ++ started ++ bound)
  | .stopController =>
    let (s, ns) := s.stopController ms
    (s, ns.map .notice)
  | .drainServer server grace =>
    ({ s with drain := some (server.drain ms s.connections grace) }, [])

/-- Do all that the agent calls for among its effects. -/
def obeyAll (ms : Nat) :
    List AgentEffect → Session α → Session α × List AgentEffect
  | [], s => (s, [])
  | .call c :: rest, s =>
    let (s, effects) := s.obey ms c
    let (s, more) := obeyAll ms rest s
    (s, .call c :: effects ++ more)
  | .notice n :: rest, s =>
    let (s, more) := obeyAll ms rest s
    (s, .notice n :: more)

/-- An input to the agent, with what it calls for. -/
def give (ms : Nat) (i : AgentInput) (s : Session α) :
    Session α × List AgentEffect :=
  let (agent, effects) := s.agent.step i
  obeyAll ms effects { s with agent }

/-- Hear of the controller if it has stopped by now. -/
def hearStopped (ms : Nat) (s : Session α) :
    Session α × List AgentEffect :=
  match s.stopping with
  | some (at_, outcome) =>
    if at_ ≤ ms then { s with stopping := none }.give ms (.stopped outcome) else (s, [])
  | none => (s, [])

/-- Hear of the debug server if it is drained by now. -/
def hearDrained (ms : Nat) (s : Session α) :
    Session α × List AgentEffect :=
  match s.drain.map (Drain.settle ms s.connections) with
  | some (.ended outcome) => { s with drain := none }.give ms (.drained outcome)
  | some drain => ({ s with drain := some drain }, [])
  | none => (s, [])

/-- The controllers do what is due. -/
def work (ms : Nat) (s : Session α) : Session α × List Notice :=
  match s.engine with
  | .scripted .. => (s, [])
  | .builtin limits station =>
    let (station, ns) := station.settle s.surroundings.answer ms
    ({ s with engine := .builtin limits station }, ns)

/-- Everything that is due at a millisecond. -/
def settle (ms : Nat) (s : Session α) :
    Session α × List AgentEffect :=
  let (s, ns) := s.work ms
  let (s, looked) := s.give ms .look
  let (s, stopped) := s.hearStopped ms
  let (s, drained) := s.hearDrained ms
  (s, ns.map .notice ++ looked ++ stopped ++ drained)

/-- The next time that there is something to do. -/
def next (s : Session α) : Option Nat :=
  let work := match s.engine with
    | .scripted .. => none
    | .builtin _ station => station.next
  Clock.earliest [work, s.stopping.map (·.1), s.drain.bind Drain.next]

/-- An input to the agent, and everything that is due then. -/
def handle (ms : Nat) (i : AgentInput) (s : Session α) :
    Session α × List AgentEffect :=
  let (s, given) := s.give ms i
  let (s, more) := s.settle ms
  (s, given ++ more)

/-- Connections to the debug server come and go. -/
def connect (ms : Nat) (connections : Nat) (s : Session α) :
    Session α × List AgentEffect :=
  { s with connections }.settle ms

/-- Let time pass. -/
def advance (now target : Nat) (s : Session α) :
    Session α × List AgentEffect :=
  Clock.pass next settle now target s

end Session

/-- The notices among effects. -/
def AgentEffect.notice? : AgentEffect → Option Notice
  | .notice n => some n
  | .call _ => none

/-- The calls among effects. -/
def AgentEffect.call? : AgentEffect → Option AgentCall
  | .notice _ => none
  | .call c => some c

end ClusterAgent
