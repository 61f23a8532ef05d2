/-
Startup parameters as given.

`Flag` names the parameters, `Flags` holds one value for each, and `Flags.default`
is what holds when nothing is given.  Nothing here is checked for sense; that is
done when the flags are resolved.
-/
import ClusterAgent.Time.Span

namespace ClusterAgent

/-- The format of log lines. -/
inductive LogFormat where
  | text
  | json
deriving DecidableEq

/-- The name of a log format. -/
def LogFormat.name : LogFormat → String
  | .text => "text"
  | .json => "json"

/-- The log format of a name. -/
def LogFormat.ofName? : String → Option LogFormat
  | "text" => some .text
  | "json" => some .json
  | _ => none

/-- The startup parameters, in the order in which they are documented. -/
inductive Flag where
  | discoveryInterval
  | cacheFlushInterval
  | debugAddr
  | clientConfigPath
  | clientGoQps
  | clientGoBurst
  | workers
  | eventsQps
  | eventsBurst
  | logFormat
  | shutdownGrace
deriving DecidableEq

namespace Flag

/-- Every parameter. -/
def all : List Flag :=
  [discoveryInterval, cacheFlushInterval, debugAddr, clientConfigPath, clientGoQps, clientGoBurst,
    workers, eventsQps, eventsBurst, logFormat, shutdownGrace]

/-- The name after the two dashes. -/
def name : Flag → String
  | discoveryInterval => "discovery-interval"
  | cacheFlushInterval => "cache-flush-interval"
  | debugAddr => "debug-addr"
  | clientConfigPath => "client-config-path"
  | clientGoQps => "client-go-qps"
  | clientGoBurst => "client-go-burst"
  | workers => "workers"
  | eventsQps => "events-qps"
  | eventsBurst => "events-burst"
  | logFormat => "log-format"
  | shutdownGrace => "shutdown-grace"

/-- The parameter of a name. -/
def ofName? (s : String) : Option Flag := all.find? (·.name == s)

/-- The flag as it is written on the command line. -/
def long (f : Flag) : String := "--" ++ f.name

/-- The flag together with a stand-in for its value: `--workers <WORKERS>`. -/
def usage (f : Flag) : String :=
  let hole := f.name.toList.map fun c => if c = '-' then '_' else c.toUpper
  f.long ++ " <" ++ String.ofList hole ++ ">"

end Flag

/-- One value for each startup parameter. -/
structure Flags where
  discoveryInterval : Span
  cacheFlushInterval : Span
  debugAddr : String
  clientConfigPath : String
  clientGoQps : Float
  clientGoBurst : UInt32
  workers : UInt64
  eventsQps : Float
  eventsBurst : UInt32
  logFormat : LogFormat
  shutdownGrace : Span

/-- The values of parameters that are not given. -/
def Flags.default : Flags where
  discoveryInterval := Span.ofSeconds 30
  cacheFlushInterval := Span.ofSeconds 1800
  debugAddr := ":9999"
  clientConfigPath := ""
  clientGoQps := 5
  clientGoBurst := 10
  workers := 5
  eventsQps := 1 / 300
  eventsBurst := 25
  logFormat := .text
  shutdownGrace := Span.ofSeconds 5

end ClusterAgent
