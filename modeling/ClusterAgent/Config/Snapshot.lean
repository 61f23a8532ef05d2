/-
The configuration as shown on the debug endpoint.

`Configuration.snapshot` writes every part of the configuration as text or
number; `Snapshot.json` is the document served.
-/
import ClusterAgent.Config.Configuration
import ClusterAgent.Json.Value
import ClusterAgent.Time.Span.Phrase

namespace ClusterAgent

/-- A rate limit as a JSON object. -/
def RateLimit.json (r : RateLimit) : Json :=
  .object [("qps", .double r.qps), ("burst", .integer r.burst.toNat)]

/-- What is shown of a configuration. -/
structure Snapshot where
  credentials : String
  discoveryInterval : String
  cacheFlushInterval : String
  debugAddr : String
  workers : UInt64
  clientRate : RateLimit
  eventRate : RateLimit
  shutdownGrace : String

/-- Show a configuration. -/
def Configuration.snapshot (c : Configuration) : Snapshot where
  credentials := c.credentials.text
  discoveryInterval := c.discoveryInterval.phrase
  cacheFlushInterval := c.cacheFlushInterval.phrase
  debugAddr := c.debugAddr.text
  workers := c.workers
  clientRate := c.clientRate
  eventRate := c.eventRate
  shutdownGrace := c.shutdownGrace.phrase

/-- The document served for a snapshot. -/
def Snapshot.json (s : Snapshot) : Json :=
  .object
    [("credentials", .string s.credentials),
      ("discovery_interval", .string s.discoveryInterval),
      ("cache_flush_interval", .string s.cacheFlushInterval),
      ("debug_addr", .string s.debugAddr),
      ("workers", .integer s.workers.toNat),
      ("client_rate", s.clientRate.json),
      ("event_rate", s.eventRate.json),
      ("shutdown_grace", .string s.shutdownGrace)]

end ClusterAgent
