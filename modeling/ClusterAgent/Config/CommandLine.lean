/-
The command line.

Each parameter is written `--flag value` or `--flag=value`, in any order and at
most once.  `Flags.ofArguments` reads a list of arguments from left to right and
answers with the flags or with the first `Refusal`.

Design notes: a value that stands in an argument of its own stays pending until
the next flag or the end, and is judged only then.  So an argument that cannot
stand where it does is reported before a pending value that is missing or wrong,
while `--flag=value` is judged on the spot.  Asking for help or for the version
ends the reading.
-/
import ClusterAgent.Config.Flags
import ClusterAgent.Decimal.Numeral
import ClusterAgent.Time.Span.Phrase

namespace ClusterAgent

open ClusterAgent.Decimal

/-- Why a value is no value of its parameter. -/
inductive ValueFault where
  | span (fault : Span.Fault)
  | double (fault : DoubleFault)
  | numeral (fault : NumeralFault)
  | notBurst (value : Int)
deriving DecidableEq

/-- The text of a value's fault. -/
def ValueFault.message : ValueFault → String
  | .span fault => fault.message
  | .double fault => fault.message
  | .numeral fault => fault.message
  | .notBurst value => toString value ++ " is not in 0..=4294967295"

/-- Why a command line is not taken, or what it asks for instead. -/
inductive Refusal where
  | unknown (argument : String)
  | valueMissing (flag : Flag)
  | valueInvalid (flag : Flag) (value : String) (fault : ValueFault)
  | choiceInvalid (flag : Flag) (value : String)
  | repeated (flag : Flag)
  /-- A value attached to `--help` or `--version`. -/
  | valueUnexpected (request value : String)
  | help (long : Bool)
  | version
deriving DecidableEq

/-- The line that explains a refusal; empty for what is no mistake. -/
def Refusal.message : Refusal → String
  | .unknown argument => "error: unexpected argument '" ++ argument ++ "' found"
  | .valueMissing flag =>
    "error: a value is required for '" ++ flag.usage ++ "' but none was supplied"
  | .valueInvalid flag value fault =>
    "error: invalid value '" ++ value ++ "' for '" ++ flag.usage ++ "': " ++ fault.message
  | .choiceInvalid flag value => "error: invalid value '" ++ value ++ "' for '" ++ flag.usage ++ "'"
  | .repeated flag => "error: the argument '" ++ flag.usage ++ "' cannot be used multiple times"
  | .valueUnexpected request value =>
    "error: unexpected value '" ++ value ++ "' for '" ++ request ++ "' found; no more were expected"
  | .help _ => ""
  | .version => ""

/-! ### Values -/

/-- Read a span. -/
def readSpan (s : String) : Except ValueFault Span := (Span.ofPhrase s).mapError .span

/-- Read a rate. -/
def readRate (s : String) : Except ValueFault Float := (readDouble s.toList).mapError .double

/-- Read a burst: an integer that fits 64 bits, and then 32 bits without sign. -/
def readBurst (s : String) : Except ValueFault UInt32 := do
  let n ← (readInteger (UInt64.size / 2) (UInt64.size / 2 - 1) s.toList).mapError .numeral
  if 0 ≤ n ∧ n < UInt32.size then .ok (UInt32.ofNat n.toNat) else .error (.notBurst n)

/-- Read a count of workers. -/
def readWorkers (s : String) : Except ValueFault UInt64 :=
  ((readNatural (UInt64.size - 1) s.toList).mapError .numeral).map UInt64.ofNat

/-- Give a parameter the value that a text stands for. -/
def Flags.assign (flags : Flags) (flag : Flag) (s : String) : Except Refusal Flags :=
  let judge {α : Type} (read : Except ValueFault α) : Except Refusal α :=
    read.mapError (.valueInvalid flag s)
  match flag with
  | .discoveryInterval => (judge (readSpan s)).map fun v => { flags with discoveryInterval := v }
  | .cacheFlushInterval => (judge (readSpan s)).map fun v => { flags with cacheFlushInterval := v }
  | .debugAddr => .ok { flags with debugAddr := s }
  | .clientConfigPath => .ok { flags with clientConfigPath := s }
  | .clientGoQps => (judge (readRate s)).map fun v => { flags with clientGoQps := v }
  | .clientGoBurst => (judge (readBurst s)).map fun v => { flags with clientGoBurst := v }
  | .workers => (judge (readWorkers s)).map fun v => { flags with workers := v }
  | .eventsQps => (judge (readRate s)).map fun v => { flags with eventsQps := v }
  | .eventsBurst => (judge (readBurst s)).map fun v => { flags with eventsBurst := v }
  | .logFormat =>
    match LogFormat.ofName? s with
    | some v => .ok { flags with logFormat := v }
    | none => .error (if s = "" then .valueMissing flag else .choiceInvalid flag s)
  | .shutdownGrace => (judge (readSpan s)).map fun v => { flags with shutdownGrace := v }

/-! ### Arguments -/

/-- What one argument is. -/
inductive Argument where
  | flag (flag : Flag) (attached : Option String)
  | help (long : Bool)
  | version
  /-- A request for help or the version with a value attached. -/
  | overloaded (request value : String)
  /-- Two dashes alone: no flags after this. -/
  | flagsEnd
  /-- Looks like a flag and is none; the part of it to report. -/
  | unknown (shown : String)
  | plain (s : String)

/-- Cut a text at the first equals sign. -/
def cutEquals (cs : List Char) : String × Option String :=
  let name := String.ofList (cs.takeWhile (· != '='))
  match cs.dropWhile (· != '=') with
  | [] => (name, none)
  | _ :: value => (name, some (String.ofList value))

/-- Tell what an argument is by its dashes. -/
def Argument.of (s : String) : Argument :=
  match s.toList with
  | ['-', '-'] => .flagsEnd
  | '-' :: '-' :: rest =>
    match cutEquals rest with
    | ("help", none) => .help true
    | ("version", none) => .version
    | ("help", some value) => .overloaded "--help" value
    | ("version", some value) => .overloaded "--version" value
    | (name, attached) =>
      match Flag.ofName? name with
      | some f => .flag f attached
      | none => .unknown ("--" ++ name)
  | ['-'] => .plain s
  | '-' :: 'h' :: _ => .help false
  | '-' :: 'V' :: _ => .version
  | '-' :: c :: _ => .unknown (String.ofList ['-', c])
  | _ => .plain s

/-- What has been read: the values so far, the flags that were given, and a flag
whose value stands in an argument of its own. -/
structure Reading where
  flags : Flags
  given : List Flag
  pending : Option (Flag × Option String)

/-- Give a flag its value, unless it was given before. -/
def Reading.take (r : Reading) (flag : Flag) (value : String) : Except Refusal Reading :=
  if flag ∈ r.given then .error (.repeated flag)
  else (r.flags.assign flag value).map fun flags => ⟨flags, flag :: r.given, none⟩

/-- Judge the pending flag. -/
def Reading.settle (r : Reading) : Except Refusal Reading :=
  match r.pending with
  | none => .ok r
  | some (flag, none) => .error (.valueMissing flag)
  | some (flag, some value) => r.take flag value

/-- Read one argument; after two dashes alone no more flags are allowed. -/
def Reading.step (r : Reading) (flagsAllowed : Bool) (s : String) :
    Except Refusal (Reading × Bool) :=
  let positional : Except Refusal (Reading × Bool) :=
    match r.pending with
    | some (flag, none) =>
      if flagsAllowed then .ok ({ r with pending := some (flag, some s) }, true)
      else .error (.unknown s)
    | _ => .error (.unknown s)
  if !flagsAllowed then positional
  else match Argument.of s with
    | .flag flag attached => do
      let r ← r.settle
      match attached with
      | some value => return (← r.take flag value, true)
      | none => return ({ r with pending := some (flag, none) }, true)
    | .help long => r.settle.bind fun _ => .error (.help long)
    | .version => r.settle.bind fun _ => .error .version
    | .overloaded request value => .error (.valueUnexpected request value)
    | .flagsEnd => .ok (r, false)
    | .unknown shown => .error (.unknown shown)
    | .plain _ => positional

/-- Read arguments from left to right. -/
def Reading.run : Reading → Bool → List String → Except Refusal Reading
  | r, _, [] => r.settle
  | r, flagsAllowed, s :: rest =>
    match r.step flagsAllowed s with
    | .ok (r, flagsAllowed) => run r flagsAllowed rest
    | .error e => .error e

/-- Read the arguments after the program's name. -/
def Flags.ofArguments (arguments : List String) : Except Refusal Flags :=
  (Reading.run ⟨Flags.default, [], none⟩ true arguments).map (·.flags)

end ClusterAgent
