/-
Spans in one unit.

`Span.brief` writes a span in the largest of seconds, milliseconds,
microseconds and nanoseconds of which it holds at least one, with as many
decimals as it takes and no zero at their end: `1800s`, `1.5µs`, `0ns`.
-/
import ClusterAgent.Time.Span

namespace ClusterAgent.Span

/-- Decimals of a remainder below one unit of `size`, zeros at the end dropped;
a point in front of them if there are any. -/
def decimals (rest size : Nat) : List Char :=
  let width := (Nat.toDigits 10 size).length - 1
  let digits := Nat.toDigits 10 rest
  let padded := List.replicate (width - digits.length) '0' ++ digits
  match (padded.reverse.dropWhile (· == '0')).reverse with
  | [] => []
  | kept => '.' :: kept

/-- A number of nanoseconds in a unit of `size` nanoseconds. -/
def inUnit (nanos size : Nat) (name : String) : String :=
  String.ofList (Nat.toDigits 10 (nanos / size) ++ decimals (nanos % size) size) ++ name

/-- The span in the largest unit of which it holds at least one. -/
def brief (d : Span) : String :=
  if nanosPerSecond ≤ d.nanos then inUnit d.nanos nanosPerSecond "s"
  else if 1000000 ≤ d.nanos then inUnit d.nanos 1000000 "ms"
  else if 1000 ≤ d.nanos then inUnit d.nanos 1000 "µs"
  else inUnit d.nanos 1 "ns"

end ClusterAgent.Span
