/-
What can go wrong while the agent starts, runs and stops.

Each stage has a type of its own for its causes, with the text of each in
`message` and the texts of what lies beneath in `sources`.

* `StartFault`, `StopFault` — the controller;
* `ServerFault`, `TeardownFault` — the debug server and the teardown;
* `ConfigFault`, `StartupFault` — what ends the agent before it runs;
* `RecorderFault` — what leaves the agent without metrics.
-/
import ClusterAgent.Client.Fault
import ClusterAgent.Client.Loader
import ClusterAgent.Config.Configuration
import ClusterAgent.Time.Span.Brief

namespace ClusterAgent

/-- The controller did not start. -/
inductive StartFault where
  | client (fault : ClientFault)
  | other (cause : Cause)
deriving DecidableEq

/-- The text of a start fault. -/
def StartFault.message : StartFault → String
  | .client fault => "failed to create control-plane client: " ++ fault.message
  | .other cause => "controller failed to start: " ++ cause.text

/-- What lies beneath a start fault. -/
def StartFault.sources : StartFault → List String
  | .client fault => [fault.message]
  | .other cause => cause.chain

/-- A start fault as a cause of others. -/
def StartFault.asCause (f : StartFault) : Cause := ⟨f.message, f.sources⟩

/-- The controller did not stop as it should. -/
structure StopFault where
  cause : Cause
deriving DecidableEq

/-- The text of a stop fault. -/
def StopFault.message (f : StopFault) : String := "controller stop failed: " ++ f.cause.text

/-- What lies beneath a stop fault. -/
def StopFault.sources (f : StopFault) : List String := f.cause.chain

/-- A stop fault as a cause of others. -/
def StopFault.asCause (f : StopFault) : Cause := ⟨f.message, f.sources⟩

/-- That many tasks of the controller panicked. -/
def StopFault.ofPanics (count : Nat) : StopFault :=
  ⟨Cause.of (toString count ++ " controller task(s) panicked")⟩

/-- The debug server does not serve. -/
inductive ServerFault where
  | bind (address : BindAddress) (cause : Cause)
  | serve (cause : Cause)
deriving DecidableEq

/-- The text of a server fault. -/
def ServerFault.message : ServerFault → String
  | .bind address cause => "failed to bind debug endpoint on " ++ address.text ++ ": " ++ cause.text
  | .serve cause => "error serving debug endpoint: " ++ cause.text

/-- What lies beneath a server fault. -/
def ServerFault.sources : ServerFault → List String
  | .bind _ cause => cause.chain
  | .serve cause => cause.chain

/-- A server fault as a cause of others. -/
def ServerFault.asCause (f : ServerFault) : Cause := ⟨f.message, f.sources⟩

/-- A step of the teardown failed. It is logged and does not hold up the rest. -/
inductive TeardownFault where
  | controller (fault : StopFault)
  | drainDeadline (grace : Span)
  | serverTask (cause : Cause)
deriving DecidableEq

/-- The text of a teardown fault. -/
def TeardownFault.message : TeardownFault → String
  | .controller fault => fault.message
  | .drainDeadline grace =>
    "debug server did not drain within " ++ grace.brief ++ "; connections were cut"
  | .serverTask cause => "debug server task failed: " ++ cause.text

/-- What lies beneath a teardown fault. -/
def TeardownFault.sources : TeardownFault → List String
  | .controller fault => fault.sources
  | .drainDeadline _ => []
  | .serverTask cause => cause.chain

/-- A teardown fault as a cause of others. -/
def TeardownFault.asCause (f : TeardownFault) : Cause := ⟨f.message, f.sources⟩

/-- There is no configuration to run with. -/
inductive ConfigFault where
  | violations (vs : List Violation)
  | credentials (source : CredentialsSource) (fault : CredentialFault)

/-- The text of a configuration fault. -/
def ConfigFault.message : ConfigFault → String
  | .violations vs => Violation.summary vs
  | .credentials source fault =>
    "failed to load credentials from " ++ source.text ++ ": " ++ fault.cause.text

/-- What lies beneath a configuration fault. -/
def ConfigFault.sources : ConfigFault → List String
  | .violations _ => []
  | .credentials _ fault => fault.cause.chain

/-- The agent did not start. -/
inductive StartupFault where
  | config (fault : ConfigFault)
  | subsystem (fault : StartFault)
  | signals (cause : Cause)

/-- The text of a startup fault. -/
def StartupFault.message : StartupFault → String
  | .config fault => fault.message
  | .subsystem fault => fault.message
  | .signals cause => "failed to install signal handlers: " ++ cause.text

/-- What lies beneath a startup fault. -/
def StartupFault.sources : StartupFault → List String
  | .config fault => fault.sources
  | .subsystem fault => fault.sources
  | .signals cause => cause.chain

/-- A startup fault as a cause of others. -/
def StartupFault.asCause (f : StartupFault) : Cause := ⟨f.message, f.sources⟩

/-- The recorder of metrics could not be installed. -/
structure RecorderFault where
  cause : String
deriving DecidableEq

/-- The text of a recorder fault. -/
def RecorderFault.message (f : RecorderFault) : String :=
  "failed to install metrics recorder: " ++ f.cause

/-- There is one recorder in a process, and it was installed before. -/
def RecorderFault.alreadyInstalled : RecorderFault :=
  ⟨"failed to install exporter as global recorder: attempted to set a recorder after the " ++
    "metrics system was already initialized"⟩

/-- Install the recorder of metrics, unless one was installed before. -/
def installRecorder (installed : Bool) : Except RecorderFault Unit :=
  if installed then .error .alreadyInstalled else .ok ()

end ClusterAgent
