/-
Spans of time and the instants between which they lie.

A `Span` counts whole nanoseconds, and its seconds fit 64 bits.  An `Instant`
is the count of nanoseconds since the clock was started, so that the span
between two instants is a difference of naturals and an instant that lies
before another is simply zero away from it.

* `Span.ofParts?` — seconds and nanoseconds together make a span exactly when
  the carried seconds still fit.

Design notes: one natural number, and not a pair of seconds and nanoseconds,
so that comparison, sums and carries are those of the naturals.
-/
namespace ClusterAgent

/-- The nanoseconds in one second. -/
def nanosPerSecond : Nat := 1000000000

/-- The first count of nanoseconds whose seconds no longer fit 64 bits. -/
def Span.limit : Nat := UInt64.size * nanosPerSecond

/-- A length of time in whole nanoseconds. -/
@[ext] structure Span where
  nanos : Nat
  lt_limit : nanos < Span.limit

/-- A point on the monotonic clock, in nanoseconds since the clock was started. -/
abbrev Instant := Nat

/-- The nanoseconds in one millisecond, the step of the timers. -/
def nanosPerMilli : Nat := 1000000

namespace Span

instance : DecidableEq Span := fun a b =>
  if h : a.nanos = b.nanos then isTrue (Span.ext h) else isFalse fun e => h (congrArg nanos e)

theorem zero_lt_limit : 0 < limit := by decide

/-- No time at all. -/
def zero : Span := ⟨0, zero_lt_limit⟩

/-- The longest span. -/
def longest : Span := ⟨limit - 1, by decide⟩

instance : Inhabited Span := ⟨zero⟩

instance : LT Span := ⟨fun a b => a.nanos < b.nanos⟩

instance : LE Span := ⟨fun a b => a.nanos ≤ b.nanos⟩

instance (a b : Span) : Decidable (a < b) := inferInstanceAs (Decidable (a.nanos < b.nanos))

instance (a b : Span) : Decidable (a ≤ b) := inferInstanceAs (Decidable (a.nanos ≤ b.nanos))

/-- The span of that many nanoseconds, if it is not too long. -/
def ofNanos? (n : Nat) : Option Span :=
  if h : n < limit then some ⟨n, h⟩ else none

/-- The span of that many nanoseconds, cut off at the longest one. -/
def ofNanos (n : Nat) : Span := (ofNanos? n).getD longest

/-- The span of seconds and nanoseconds; whole seconds among the nanoseconds
are carried. -/
def ofParts? (seconds nanos : Nat) : Option Span := ofNanos? (seconds * nanosPerSecond + nanos)

/-- The span of that many seconds, cut off at the longest one. -/
def ofSeconds (s : Nat) : Span := ofNanos (s * nanosPerSecond)

/-- Whole seconds. -/
def seconds (d : Span) : Nat := d.nanos / nanosPerSecond

/-- Nanoseconds beyond the whole seconds. -/
def subsecond (d : Span) : Nat := d.nanos % nanosPerSecond

/-- Whether this is no time at all. -/
def isZero (d : Span) : Bool := d.nanos == 0

/-- The time from `earlier` to `later`, zero if they lie the other way round. -/
def between (earlier later : Instant) : Span := ofNanos (later - earlier)

end Span

end ClusterAgent
