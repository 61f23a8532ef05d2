/-
What the agent counts and measures.

A `Measurement` is one occurrence that the metrics tell of: a finished
discovery, a suppressed event, a request with its status and duration.  Each
adds one to a counter; some also set a gauge or give a sample of a duration.
-/
import ClusterAgent.Time.Span

namespace ClusterAgent

/-- One occurrence that the metrics tell of. -/
inductive Measurement where
  /-- A discovery ended; the number of resource kinds is known if it succeeded. -/
  | discovery (success : Bool) (resources : Option Nat)
  | cacheFlush
  | eventSuppressed
  | clientThrottled
  /-- A request ended, without a status if no response came. -/
  | clientRequest (method : String) (status : Option Nat) (elapsed : Span)
  | lifecycle (event : String)
  | shutdownError (step : String)
deriving DecidableEq

/-- How a metric adds up. -/
inductive MetricKind where
  | counter
  | gauge
  | histogram
deriving DecidableEq

/-- The metrics of the agent. -/
inductive Metric where
  | discoveryRefreshes
  | discoveredResources
  | cacheFlushes
  | eventsSuppressed
  | clientThrottled
  | clientRequests
  | clientRequestDuration
  | lifecycleEvents
  | shutdownErrors
deriving DecidableEq

namespace Metric

/-- Every metric. -/
def all : List Metric :=
  [discoveryRefreshes, discoveredResources, cacheFlushes, eventsSuppressed, clientThrottled,
    clientRequests, clientRequestDuration, lifecycleEvents, shutdownErrors]

/-- The name under which a metric is exposed. -/
def name : Metric → String
  | discoveryRefreshes => "agent_discovery_refresh_total"
  | discoveredResources => "agent_discovered_resources"
  | cacheFlushes => "agent_cache_flush_total"
  | eventsSuppressed => "agent_events_suppressed_total"
  | clientThrottled => "agent_client_throttled_total"
  | clientRequests => "agent_client_requests_total"
  | clientRequestDuration => "agent_client_request_duration_seconds"
  | lifecycleEvents => "agent_lifecycle_events_total"
  | shutdownErrors => "agent_shutdown_errors_total"

/-- What a metric means. -/
def meaning : Metric → String
  | discoveryRefreshes => "Discovery refreshes by result"
  | discoveredResources => "Resource kinds seen by the last discovery refresh"
  | cacheFlushes => "Cache flush generations issued"
  | eventsSuppressed => "Events dropped by per-object rate limiting"
  | clientThrottled => "Client requests delayed by the request limiter"
  | clientRequests => "Control-plane requests by method and status"
  | clientRequestDuration => "Control-plane request latency"
  | lifecycleEvents => "Startup and shutdown steps reached"
  | shutdownErrors => "Teardown steps that failed"

/-- How a metric adds up. -/
def kind : Metric → MetricKind
  | discoveredResources => .gauge
  | clientRequestDuration => .histogram
  | _ => .counter

end Metric

/-- Labels of a series, in the order in which they are written. -/
abbrev Labels := List (String × String)

namespace Measurement

/-- The counter that an occurrence adds one to, with its labels. -/
def counted : Measurement → Metric × Labels
  | discovery success _ =>
    (.discoveryRefreshes, [("result", if success then "success" else "error")])
  | cacheFlush => (.cacheFlushes, [])
  | eventSuppressed => (.eventsSuppressed, [])
  | clientThrottled => (.clientThrottled, [])
  | clientRequest method status _ =>
    (.clientRequests, [("method", method), ("status", (status.map toString).getD "error")])
  | lifecycle event => (.lifecycleEvents, [("event", event)])
  | shutdownError step => (.shutdownErrors, [("step", step)])

/-- The value that an occurrence sets the gauge of discovered resources to. -/
def gauged : Measurement → Option Nat
  | discovery _ resources => resources
  | _ => none

/-- The method and the duration that an occurrence gives a sample of. -/
def sampled : Measurement → Option (String × Span)
  | clientRequest method _ elapsed => some (method, elapsed)
  | _ => none

end Measurement

end ClusterAgent
