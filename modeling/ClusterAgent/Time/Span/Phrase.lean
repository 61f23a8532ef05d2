/-
Spans in words: `1h 30m`, `2days 4ms`.

A phrase is a sequence of numbers with units.  `Span.ofPhrase` reads one,
`Span.phrase` writes the phrase of a span from years down to nanoseconds and
leaves out the units of which there are none.

* `Unit.nanos` — what one unit is worth: a year is 365.25 days and a month 30.44,
  so twelve months are a little more than a year;
* `Fault.message` — the text of each way in which a phrase can be wrong.

Design notes: the reader is one pass over the characters, a machine with four
stages that knows the byte offset.  A number may carry a fraction as long as the
result is a whole number of nanoseconds, for hours and longer units a whole number
of seconds.
Nanoseconds are carried into the seconds as soon as they pass one second, and
once more when the span is put together.
-/
import ClusterAgent.Text.Blank
import ClusterAgent.Time.Span

namespace ClusterAgent.Span

open ClusterAgent.Text

/-- The units of a phrase. -/
inductive Unit where
  | nanosecond | microsecond | millisecond | second | minute | hour | day | week | month | year
deriving DecidableEq

/-- What one unit is worth in nanoseconds. -/
def Unit.nanos : Unit → Nat
  | .nanosecond => 1
  | .microsecond => 1000
  | .millisecond => 1000000
  | .second => nanosPerSecond
  | .minute => 60 * nanosPerSecond
  | .hour => 3600 * nanosPerSecond
  | .day => 86400 * nanosPerSecond
  | .week => 604800 * nanosPerSecond
  | .month => 2630016 * nanosPerSecond
  | .year => 31557600 * nanosPerSecond

/-- The unit of a name. -/
def Unit.ofName? (name : String) : Option Unit :=
  if name ∈ ["nanos", "nsec", "ns"] then some .nanosecond
  else if name ∈ ["usec", "us", "µs"] then some .microsecond
  else if name ∈ ["millis", "msec", "ms"] then some .millisecond
  else if name ∈ ["seconds", "second", "secs", "sec", "s"] then some .second
  else if name ∈ ["minutes", "minute", "min", "mins", "m"] then some .minute
  else if name ∈ ["hours", "hour", "hrs", "hr", "h"] then some .hour
  else if name ∈ ["days", "day", "d"] then some .day
  else if name ∈ ["weeks", "week", "wk", "wks", "w"] then some .week
  else if name ∈ ["months", "month", "M"] then some .month
  else if name ∈ ["years", "year", "yr", "yrs", "y"] then some .year
  else none

/-! ### Reading -/

/-- What is wrong with a phrase; places are byte offsets. -/
inductive Fault where
  | empty
  | numberExpected (place : Nat)
  | invalidCharacter (place : Nat)
  | unitMissing (count : Nat)
  | unitUnknown (name : String)
  | outOfRange
  /-- The seconds and the nanoseconds fit, and their sum does not. -/
  | carryOverflow
deriving DecidableEq

/-- The text of a fault. -/
def Fault.message : Fault → String
  | .empty => "value was empty"
  | .numberExpected k => "expected number at " ++ toString k
  | .invalidCharacter k => "invalid character at " ++ toString k
  | .unitMissing n =>
    "time unit needed, for example " ++ toString n ++ "sec or " ++ toString n ++ "ms"
  | .unitUnknown name =>
    "unknown time unit \"" ++ name ++ "\", supported units: ns, us/µs, ms, sec, min, hours, " ++
      "days, weeks, months, years (and few variations)"
  | .outOfRange =>
    "number is too large or cannot be represented without a lack of precision " ++
      "(values below 1ns are not supported)"
  | .carryOverflow => "overflow in Duration::new"

/-- A number that must stay below `2^64`. -/
def word (n : Nat) : Except Fault Nat := if n < UInt64.size then .ok n else .error .outOfRange

/-- A number with one digit more. -/
def snocDigit (n : Nat) (c : Char) : Except Fault Nat := do
  let n ← word (n * 10)
  word (n + (c.toNat - '0'.toNat))

/-- Whether a character can stand in the name of a unit. -/
def isUnitLetter (c : Char) : Bool := c.isAlpha || c == 'µ'

/-- Add seconds and nanoseconds to a span. Nanoseconds are carried once they
exceed one second; exactly one second of them is carried by the sum. -/
def extend (d : Span) (seconds nanos : Nat) : Except Fault Span := do
  let nanos ← word (d.subsecond + nanos)
  let carried := nanosPerSecond < nanos
  let seconds ← word (seconds + if carried then nanos / nanosPerSecond else 0)
  let seconds ← word (d.seconds + seconds)
  match ofParts? seconds (if carried then nanos % nanosPerSecond else nanos) with
  | some d => .ok d
  | none => .error .carryOverflow

/-- Add a whole number of units to a span. -/
def extendWhole (d : Span) (n : Nat) (u : Unit) : Except Fault Span := do
  if u.nanos < nanosPerSecond then extend d 0 (← word (n * u.nanos))
  else extend d (← word (n * (u.nanos / nanosPerSecond))) 0

/-- Add the fraction `num / den` of a unit to a span, which must come out even:
in nanoseconds up to minutes, in seconds beyond. -/
def extendFraction (d : Span) (num den : Nat) (u : Unit) : Except Fault Span := do
  let share (size : Nat) : Except Fault Nat := do
    let product ← word (num * size)
    if product % den = 0 then .ok (product / den) else .error .outOfRange
  if u = .nanosecond then .error .outOfRange
  else if u.nanos ≤ 60 * nanosPerSecond then extend d 0 (← share u.nanos)
  else extend d (← share (u.nanos / nanosPerSecond)) 0

/-- A number as read so far. -/
structure Amount where
  whole : Nat
  /-- Numerator and denominator of what stands after the point. -/
  fraction : Option (Nat × Nat)

/-- Add an amount with the name of its unit to a span. -/
def extendNamed (d : Span) (a : Amount) (name : List Char) : Except Fault Span := do
  match Unit.ofName? (String.ofList name) with
  | none =>
    if name.isEmpty then .error (.unitMissing a.whole)
    else .error (.unitUnknown (String.ofList name))
  | some u =>
    let d ← extendWhole d a.whole u
    match a.fraction with
    | none => .ok d
    | some (num, den) => extendFraction d num den u

/-- Where the reader stands. -/
inductive Stage where
  /-- Before a number; `start` is where the search for it began. -/
  | between (first : Bool) (start : Nat)
  | whole (n : Nat)
  /-- After a point; `place` is the offset to report if the character is wrong. -/
  | fraction (n num den place : Nat)
  | unit (a : Amount) (name : List Char)

/-- Read one character at its offset. -/
def step (sum : Span) (c : Char) (k : Nat) : Stage → Except Fault (Span × Stage)
  | .between first start =>
    if c.isDigit then .ok (sum, .whole (c.toNat - '0'.toNat))
    else if isBlank c then .ok (sum, .between first start)
    else .error (.numberExpected start)
  | .whole n =>
    if c.isDigit then (snocDigit n c).map fun n => (sum, .whole n)
    else if isBlank c then .ok (sum, .whole n)
    else if isUnitLetter c then .ok (sum, .unit ⟨n, none⟩ [c])
    else if c = '.' then .ok (sum, .fraction n 0 1 k)
    else .error (.invalidCharacter k)
  | .fraction n num den place =>
    if c.isDigit then do
      let den ← word (den * 10)
      let num ← snocDigit num c
      .ok (sum, .fraction n num den (k + c.utf8Size))
    else if isBlank c then .ok (sum, .fraction n num den (k + c.utf8Size))
    else if isUnitLetter c && den != 1 then .ok (sum, .unit ⟨n, some (num, den)⟩ [c])
    else .error (.invalidCharacter place)
  | .unit a name =>
    if c.isDigit then (extendNamed sum a name).map fun d => (d, .whole (c.toNat - '0'.toNat))
    else if isBlank c then
      (extendNamed sum a name).map fun d => (d, .between false (k + c.utf8Size))
    else if isUnitLetter c then .ok (sum, .unit a (name ++ [c]))
    else .error (.invalidCharacter k)

/-- What the end of the phrase means. -/
def finish (sum : Span) : Stage → Except Fault Span
  | .between first _ => if first then .error .empty else .ok sum
  | .whole n => extendNamed sum ⟨n, none⟩ []
  | .fraction n num den place =>
    if den = 1 then .error (.invalidCharacter place) else extendNamed sum ⟨n, some (num, den)⟩ []
  | .unit a name => extendNamed sum a name

/-- Read the characters from an offset on. -/
def run : Nat → Span × Stage → List Char → Except Fault Span
  | _, (sum, stage), [] => finish sum stage
  | k, (sum, stage), c :: rest =>
    match step sum c k stage with
    | .ok next => run (k + c.utf8Size) next rest
    | .error e => .error e

/-- Read a phrase; a lone `0` is the empty span. -/
def ofPhrase (s : String) : Except Fault Span :=
  if s = "0" then .ok zero else run 0 (zero, .between true 0) s.toList

/-! ### Writing -/

/-- One part of a phrase, nothing if there is none of the unit. -/
def part (n : Nat) (name : String) (plural : Bool) : List String :=
  if n = 0 then []
  else [toString n ++ name ++ (if plural && n > 1 then "s" else "")]

/-- The phrase of a span, from years down to nanoseconds. -/
def phrase (d : Span) : String :=
  let year := Unit.year.nanos / nanosPerSecond
  let month := Unit.month.nanos / nanosPerSecond
  let inYear := d.seconds % year
  let inMonth := inYear % month
  let inDay := inMonth % 86400
  let parts :=
    part (d.seconds / year) "year" true ++ part (inYear / month) "month" true ++
      part (inMonth / 86400) "day" true ++ part (inDay / 3600) "h" false ++
      part (inDay % 3600 / 60) "m" false ++ part (inDay % 60) "s" false ++
      part (d.subsecond / 1000000) "ms" false ++ part (d.subsecond / 1000 % 1000) "us" false ++
      part (d.subsecond % 1000) "ns" false
  if d.isZero then "0s" else " ".intercalate parts

end ClusterAgent.Span
