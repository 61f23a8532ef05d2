/-
The program, from its flags to its exit.

* `Program.start` — resolve the flags, load credentials, listen to signals, start the
  controller and the debug server, in this order; the first stage that fails ends the
  program;
* `Program.signal` — the first signal asks the agent to shut down.

Design notes: a command line that is not taken ends the program before it logs
anything, so it has a `Farewell` of its own.  Without a recorder of metrics the
program goes on, and says so.
-/
import ClusterAgent.Agent.Session
import ClusterAgent.Client.Handle
import ClusterAgent.Config.CommandLine
import ClusterAgent.Config.Help
import ClusterAgent.Telemetry.Filter

namespace ClusterAgent

/-- How the program exits. -/
inductive ExitCode where
  | success
  | failure
  /-- The command line was not taken. -/
  | misuse
  /-- It could not go on at all. -/
  | crash
deriving DecidableEq, Nonempty

/-- The number of an exit code. -/
def ExitCode.number : ExitCode → Nat
  | .success => 0
  | .failure => 1
  | .misuse => 2
  | .crash => 101

/-- What the program leaves behind if it does nothing but read its command line:
an exit code, its output and its complaint. -/
structure Farewell where
  code : ExitCode
  output : String
  complaint : String
deriving DecidableEq

/-- What becomes of a command line that is not taken. -/
def Refusal.farewell : Refusal → Farewell
  | .help long => ⟨.success, helpText long, ""⟩
  | .version => ⟨.success, versionText, ""⟩
  | .valueInvalid _ _ (.span .carryOverflow) => ⟨.crash, "", ""⟩
  | r => ⟨.misuse, "", r.message⟩

/-- The signals that the program heeds. -/
inductive Signal where
  | interrupt
  | terminate
deriving DecidableEq

/-- The name of a signal. -/
def Signal.name : Signal → String
  | .interrupt => "SIGINT"
  | .terminate => "SIGTERM"

/-- The line for a log entry. -/
def LogFormat.line : LogFormat → LogEvent → String
  | .text, e => e.textLine
  | .json, e => e.jsonLine.render

/-- The program after it read its command line. -/
inductive Program (α : Type) where
  | running (session : Session α)
  | exited (code : ExitCode)

/-- Where a session gets its surroundings, and its controller from a client. -/
structure Provision (α : Type) where
  surroundings : Surroundings
  loader : Loader
  limits : RateLimit → Limits α
  engine : ClientHandle α → Engine α
  /-- How the recorder of metrics is installed. -/
  recorder : Except RecorderFault Unit
  /-- How the program comes to listen to signals. -/
  listener : Except Cause Unit

namespace Provision

/-- The controllers of this library, with the limiter of the client, and the first recorder of
the process. -/
def builtin {α : Type} [TokenArithmetic α] (surroundings : Surroundings)
    (limits : RateLimit → Limits α) (listener : Except Cause Unit) : Provision α :=
  { surroundings, loader := surroundings.environment.loader, limits
    engine := fun handle => .builtin limits (Station.new handle.limiter)
    recorder := installRecorder false
    listener }

/-- What is said of metrics before the client is built: that there will be none, if so. -/
def warnings {α : Type} (p : Provision α) : List AgentEffect :=
  match p.recorder with
  | .ok () => []
  | .error fault => [.notice (.logged (.metricsUnavailable fault.message))]

end Provision

/-- How a stage of the program went. -/
structure Progress (α : Type) where
  program : Program α
  calls : List LoaderCall
  effects : List AgentEffect

/-- Whether the program cannot even say what is wrong. -/
def StartupFault.isFatal : StartupFault → Bool
  | .config (.credentials _ (.kubeconfig fault)) => fault.isFatal
  | .subsystem (.client fault) => fault.isFatal
  | _ => false

namespace Program

variable {α : Type} [TokenArithmetic α]

omit [TokenArithmetic α] in
/-- The exit code, if the program has exited. -/
def exitCode? : Program α → Option ExitCode
  | .running _ => none
  | .exited code => some code

/-- Exit because the agent did not start. -/
def abort (fault : StartupFault) : Program α × List AgentEffect :=
  if fault.isFatal then (.exited .crash, [])
  else (.exited .failure, [.notice (.logged (.terminating fault.message))])

/-- Exit if the session has ended, and say so if it failed. -/
def conclude (s : Session α) (effects : List AgentEffect) : Program α × List AgentEffect :=
  match s.agent.result? with
  | none => (.running s, effects)
  | some (.ok ()) => (.exited .success, effects)
  | some (.error fault) =>
    let (program, last) := abort (.subsystem fault)
    (program, effects ++ last)

/-- The entries with which every run begins. -/
def opening (f : Flags) : List AgentEffect :=
  .notice (.logged (.starting programVersion)) ::
    match f.resolve with
    | .error _ => []
    | .ok c =>
      [.notice (.logged (.configured c.discoveryInterval c.cacheFlushInterval c.debugAddr.text
        c.workers.toNat c.eventRate.qps c.eventRate.burst.toNat))]

/-- Start the program. -/
def start (p : Provision α) (f : Flags) (ms : Nat) : Progress α :=
  match f.resolve with
  | .error vs =>
    let (program, last) := abort (.config (.violations vs))
    ⟨program, [], opening f ++ last⟩
  | .ok c =>
    let build := ClientBuild.build p.loader p.limits c (Clock.instantOf ms)
    let built := build.notices.map .notice
    match build.outcome with
    | .error fault =>
      let (program, last) := abort (.config fault)
      ⟨program, build.calls, opening f ++ p.warnings ++ built ++ last⟩
    | .ok handle =>
      match p.listener with
      | .error cause =>
        let (program, last) := abort (.signals cause)
        ⟨program, build.calls, opening f ++ p.warnings ++ built ++ last⟩
      | .ok () =>
        let session := Session.new p.surroundings handle.access (p.engine handle) c
        let (session, effects) := session.handle ms .run
        let (program, effects) := conclude session effects
        ⟨program, build.calls, opening f ++ p.warnings ++ built ++ effects⟩

/-- A signal arrives. -/
def signal (ms : Nat) (s : Signal) : Program α → Program α × List AgentEffect
  | .exited code => (.exited code, [])
  | .running session =>
    if session.agent.slot.triggered then
      (.running session, [.notice (.logged (.signalIgnored s.name))])
    else
      let (session, effects) := session.handle ms .trigger
      conclude session (.notice (.logged (.signalTaken s.name)) :: effects)

/-- Connections to the debug server come and go. -/
def connect (ms connections : Nat) : Program α → Program α × List AgentEffect
  | .exited code => (.exited code, [])
  | .running session =>
    let (session, effects) := session.connect ms connections
    conclude session effects

/-- Let time pass. -/
def advance (now target : Nat) : Program α → Program α × List AgentEffect
  | .exited code => (.exited code, [])
  | .running session =>
    let (session, effects) := session.advance now target
    conclude session effects

end Program

end ClusterAgent
