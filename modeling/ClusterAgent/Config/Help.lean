/-
What the program says about itself.

`helpText` lists the flags with their meaning and default, in a long form with
one paragraph a flag and in a short one; `versionText` is the program's name and
version.
-/
import ClusterAgent.Config.Flags

namespace ClusterAgent

/-- The name of the program. -/
def programName : String := "controller-agent"

/-- The version of the program. -/
def programVersion : String := "0.1.0"

/-- What a parameter means. -/
def Flag.meaning : Flag → String
  | .discoveryInterval =>
    "How often to refresh discovery cache to pick up newly-installed resources"
  | .cacheFlushInterval => "How often to flush local caches and relist objects from the API server"
  | .debugAddr => "The address to bind the debug http endpoints"
  | .clientConfigPath => "Path to kubeconfig file; if not specified, use in-cluster config"
  | .clientGoQps => "Number of queries per second the API client is allowed to make"
  | .clientGoBurst => "Allowed burst queries for the API client"
  | .workers => "Number of sync workers to run"
  | .eventsQps => "Rate of events flowing per object (default: 1 event per 5 minutes)"
  | .eventsBurst => "Number of events allowed to send per object"
  | .logFormat => "Log output format"
  | .shutdownGrace => "How long the debug server may take to drain on shutdown"

/-- The default of a parameter as it would be written on the command line. -/
def Flag.defaultText : Flag → String
  | .discoveryInterval => "30s"
  | .cacheFlushInterval => "30m"
  | .debugAddr => ":9999"
  | .clientConfigPath => "\"\""
  | .clientGoQps => "5"
  | .clientGoBurst => "10"
  | .workers => "5"
  | .eventsQps => "0.0033333333333333335"
  | .eventsBurst => "25"
  | .logFormat => "text"
  | .shutdownGrace => "5s"

/-- What a log format is for. -/
def LogFormat.meaning : LogFormat → String
  | .text => "Human readable lines"
  | .json => "One JSON object per line"

/-- The margin of explanations. -/
def helpMargin : String := "          "

/-- The lines about one flag in the short help. -/
def Flag.shortHelp (f : Flag) : List String :=
  let choices := if f = .logFormat then " [possible values: text, json]" else ""
  ["      " ++ f.usage,
    helpMargin ++ f.meaning ++ " [default: " ++ f.defaultText ++ "]" ++ choices]

/-- The lines about one flag in the long help. -/
def Flag.longHelp (f : Flag) : List String :=
  let choice (l : LogFormat) : String := helpMargin ++ "- " ++ l.name ++ ": " ++ l.meaning
  let choices :=
    if f = .logFormat then ["", helpMargin ++ "Possible values:", choice .text, choice .json]
    else []
  ["      " ++ f.usage, helpMargin ++ f.meaning] ++ choices ++
    [helpMargin, helpMargin ++ "[default: " ++ f.defaultText ++ "]", ""]

/-- The help text. -/
def helpText (long : Bool) : String :=
  let flags := Flag.all.flatMap fun f => if long then f.longHelp else f.shortHelp
  let requests :=
    if long then
      ["  -h, --help", helpMargin ++ "Print help (see a summary with '-h')", "", "  -V, --version",
        helpMargin ++ "Print version"]
    else
      ["  -h, --help", helpMargin ++ "Print help (see more with '--help')", "  -V, --version",
        helpMargin ++ "Print version"]
  let lines :=
    ["Control-plane agent that runs the controller subsystem", "",
      "Usage: " ++ programName ++ " [OPTIONS]", "", "Options:"] ++ flags ++ requests
  String.join (lines.map (· ++ "\n"))

/-- The program's name and version. -/
def versionText : String := programName ++ " " ++ programVersion ++ "\n"

end ClusterAgent
