/-
What the agent logs.

A `LogEvent` is one thing worth a log entry, with the values that it is about.
Its level, target, message and fields are functions of it, and a log line is
written from those.

* `LogEvent.textLine` — level, target, message and the fields as `name=value`;
* `LogEvent.jsonLine` — the same as a JSON object.

Design notes: a field is kept as the kind of value it is.  A text is quoted in a
text line while a phrase, which is the readable form of some other value, is
not; in a JSON object both are strings.
-/
import ClusterAgent.Json.Value
import ClusterAgent.Text.Quoted
import ClusterAgent.Time.Span.Brief

namespace ClusterAgent

/-- How much an entry matters, the least first. -/
inductive Level where
  | trace
  | debug
  | info
  | warn
  | error
deriving DecidableEq

/-- The name of a level. -/
def Level.name : Level → String
  | .trace => "TRACE"
  | .debug => "DEBUG"
  | .info => "INFO"
  | .warn => "WARN"
  | .error => "ERROR"

/-- The rank of a level, from least to most important. -/
def Level.rank : Level → Nat
  | .trace => 0
  | .debug => 1
  | .info => 2
  | .warn => 3
  | .error => 4

/-- The value of a field. -/
inductive FieldValue where
  | text (s : String)
  | phrase (s : String)
  | number (n : Nat)
  | double (x : Float)

/-- The value in a text line. -/
def FieldValue.shown : FieldValue → String
  | .text s => Text.quote s
  | .phrase s => s
  | .number n => toString n
  | .double x => Decimal.console.write x

/-- The value in a JSON object. -/
def FieldValue.json : FieldValue → Json
  | .text s => .string s
  | .phrase s => .string s
  | .number n => .integer n
  | .double x => .double x

/-- The parts of the agent that log. -/
inductive Part where
  | program
  | clientBuilder
  | clientLimiter
  | controllerEvents
  | controllerTasks
  | debugServer
  | journal
  | signals
  | startup
deriving DecidableEq

/-- The target under which a part logs. -/
def Part.target : Part → String
  | .program => "controller_agent"
  | .clientBuilder => "controller_agent::client::builder"
  | .clientLimiter => "controller_agent::client::rate_limit"
  | .controllerEvents => "controller_agent::controller::events"
  | .controllerTasks => "controller_agent::controller::runtime"
  | .debugServer => "controller_agent::http::server"
  | .journal => "controller_agent::lifecycle::journal"
  | .signals => "controller_agent::lifecycle::signals"
  | .startup => "controller_agent::lifecycle::startup"

/-- One thing worth a log entry. -/
inductive LogEvent where
  | starting (version : String)
  | configured (discoveryInterval cacheFlushInterval : Span) (debugAddr : String) (workers : Nat)
      (eventsQps : Float) (eventsBurst : Nat)
  | metricsUnavailable (error : String)
  | terminating (error : String)
  | usingKubeconfig (path : String)
  | usingAmbient
  | clientConfigured (clusterUrl : String) (qps : Float) (burst : Nat)
  | requestThrottled (wait : Span)
  | eventSuppressed (object : String)
  | runtimeStarted (workers : Nat) (discoveryInterval cacheFlushInterval : Span)
  | taskPanicked (error : String)
  | runtimeStopped
  | discoveryRefreshed (resources : Nat)
  | discoveryFailed (error : String)
  | discoveryExiting
  | flushing (generation : Nat)
  | flushExiting
  | relistPickedUp (worker generation resources : Nat)
  | serving (address : String)
  | servingFailed (error : String)
  | wildcardFallback (error : String)
  | lifecycleStep (event : String)
  | waiting
  | alreadyShuttingDown
  | stopFailed (error : String)
  | drainFailed (error : String)
  | shutdownComplete
  | signalTaken (signal : String)
  | signalIgnored (signal : String)

namespace LogEvent

/-- Who logs it. -/
def part : LogEvent → Part
  | starting .. | configured .. | metricsUnavailable .. | terminating .. => .program
  | usingKubeconfig .. | usingAmbient | clientConfigured .. => .clientBuilder
  | requestThrottled .. => .clientLimiter
  | eventSuppressed .. => .controllerEvents
  | runtimeStarted .. | taskPanicked .. | runtimeStopped | discoveryRefreshed ..
  | discoveryFailed .. | discoveryExiting | flushing .. | flushExiting | relistPickedUp .. =>
    .controllerTasks
  | serving .. | servingFailed .. | wildcardFallback .. => .debugServer
  | lifecycleStep .. => .journal
  | waiting | alreadyShuttingDown | stopFailed .. | drainFailed .. | shutdownComplete => .startup
  | signalTaken .. | signalIgnored .. => .signals

/-- How much it matters. -/
def level : LogEvent → Level
  | requestThrottled .. | eventSuppressed .. | discoveryRefreshed .. | discoveryExiting
  | flushExiting | relistPickedUp .. | wildcardFallback .. | lifecycleStep .. => .debug
  | metricsUnavailable .. | discoveryFailed .. | alreadyShuttingDown | signalIgnored .. => .warn
  | terminating .. | taskPanicked .. | servingFailed .. | stopFailed .. | drainFailed .. => .error
  | _ => .info

/-- What it says. -/
def message : LogEvent → String
  | starting .. => "controller-agent starting"
  | configured .. => "Configuration loaded"
  | metricsUnavailable .. => "Metrics recorder unavailable"
  | terminating .. => "Terminating"
  | usingKubeconfig .. => "Using current context from kubeconfig file"
  | usingAmbient => "No kubeconfig file specified; trying in-cluster auto-config"
  | clientConfigured .. => "Control-plane client configured"
  | requestThrottled .. => "Client request throttled"
  | eventSuppressed .. => "Event suppressed by rate limit"
  | runtimeStarted .. => "Controller runtime started"
  | taskPanicked .. => "Controller task panicked"
  | runtimeStopped => "Controller runtime stopped"
  | discoveryRefreshed .. => "Discovery cache refreshed"
  | discoveryFailed .. => "Failed to refresh discovery cache"
  | discoveryExiting => "Discovery loop exiting"
  | flushing .. => "Flushing object caches for relist"
  | flushExiting => "Cache flush loop exiting"
  | relistPickedUp .. => "Worker picked up relist generation"
  | serving .. => "Debug server listening"
  | servingFailed .. => "Error serving http endpoint"
  | wildcardFallback .. => "IPv6 unavailable; binding IPv4 only"
  | lifecycleStep .. => "Lifecycle step"
  | waiting => "Agent running; waiting for termination signal"
  | alreadyShuttingDown => "Coordinator already left Running state"
  | stopFailed .. => "Error stopping controller"
  | drainFailed .. => "Error shutting down http endpoint"
  | shutdownComplete => "Shutdown complete"
  | signalTaken .. => "Shutting down..."
  | signalIgnored .. => "Shutdown already in progress; ignoring signal"

/-- The values it is about. -/
def fields : LogEvent → List (String × FieldValue)
  | starting version => [("version", .text version)]
  | configured discovery flush addr workers qps burst =>
    [("discovery_interval", .phrase discovery.brief), ("cache_flush_interval", .phrase flush.brief),
      ("debug_addr", .phrase addr), ("workers", .number workers), ("events_qps", .double qps),
      ("events_burst", .number burst)]
  | metricsUnavailable error | terminating error | taskPanicked error | discoveryFailed error
  | servingFailed error | wildcardFallback error | stopFailed error | drainFailed error =>
    [("error", .phrase error)]
  | usingKubeconfig path => [("path", .phrase path)]
  | clientConfigured url qps burst =>
    [("cluster_url", .phrase url), ("qps", .double qps), ("burst", .number burst)]
  | requestThrottled wait => [("wait", .phrase wait.brief)]
  | eventSuppressed object => [("object", .phrase object)]
  | runtimeStarted workers discovery flush =>
    [("workers", .number workers), ("discovery_interval", .phrase discovery.brief),
      ("cache_flush_interval", .phrase flush.brief)]
  | discoveryRefreshed n => [("resources", .number n)]
  | flushing generation => [("generation", .number generation)]
  | relistPickedUp worker generation n =>
    [("worker", .number worker), ("generation", .number generation), ("resources", .number n)]
  | serving address => [("address", .phrase address)]
  | lifecycleStep event => [("event", .text event)]
  | signalTaken signal | signalIgnored signal => [("signal", .text signal)]
  | usingAmbient | runtimeStopped | discoveryExiting | flushExiting | waiting | alreadyShuttingDown
  | shutdownComplete => []

/-- The entry as a line of text. -/
def textLine (e : LogEvent) : String :=
  let shown := e.fields.map fun (k, v) => " " ++ k ++ "=" ++ v.shown
  e.level.name ++ " " ++ e.part.target ++ ": " ++ e.message ++ String.join shown

/-- The entry as a JSON object. -/
def jsonLine (e : LogEvent) : Json :=
  .object
    [("level", .string e.level.name),
      ("fields",
        .object (("message", .string e.message) :: e.fields.map fun (k, v) => (k, v.json))),
      ("target", .string e.part.target)]

end LogEvent

end ClusterAgent
