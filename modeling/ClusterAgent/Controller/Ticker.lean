/-
Ticks at regular intervals.

A ticker knows when its next tick is due.  A tick that comes on time makes the
next one due a period after it was due itself; one that comes late, a period
after it came.

* `Ticker.starting`, `Ticker.after` — the first tick comes at once, or after a
  period;
* `Ticker.tick` — a due tick is taken;
* `Ticker.due_of_tick` — the next tick is due a whole period later, or put off because
  that lies beyond the last instant.

Design notes: there is a last instant.  To work out a late tick or the first one
beyond it is a panic; a tick that comes on time is put off far ahead instead.
-/
import ClusterAgent.Time.Clock

namespace ClusterAgent

/-- Why a task ended by itself. -/
inductive TaskPanic where
  | zeroPeriod
  | instantOverflow
deriving DecidableEq

/-- The text of a panic. -/
def TaskPanic.message : TaskPanic → String
  | .zeroPeriod => "\x60period\x60 must be non-zero."
  | .instantOverflow => "overflow when adding duration to instant"

/-- When the next tick is due, and how far ticks are apart. -/
structure Ticker where
  due : Instant
  period : Span
deriving DecidableEq

namespace Ticker

/-- Instants lie before this one: their whole seconds are told by 63 bits. -/
def endOfTime : Instant := UInt64.size / 2 * nanosPerSecond

/-- How late a tick may be taken and still count as on time. -/
def tolerance : Nat := 5 * nanosPerMilli

/-- Thirty years, the wait for a tick whose time cannot be told. -/
def farAhead : Nat := 86400 * 365 * 30 * nanosPerSecond

/-- The instant that lies a span ahead, if there is one. -/
def ahead? (t : Instant) (d : Span) : Option Instant :=
  if t + d.nanos < endOfTime then some (t + d.nanos) else none

/-- The first tick comes at once. -/
def starting (now : Instant) (period : Span) : Except TaskPanic Ticker :=
  if period.isZero then .error .zeroPeriod else .ok ⟨now, period⟩

/-- The first tick comes after a period. -/
def after (now : Instant) (period : Span) : Except TaskPanic Ticker :=
  match ahead? now period with
  | none => .error .instantOverflow
  | some due => if period.isZero then .error .zeroPeriod else .ok ⟨due, period⟩

/-- Take a due tick. -/
def tick (t : Ticker) (now : Instant) : Except TaskPanic Ticker :=
  if t.due + tolerance < now then
    match ahead? now t.period with
    | some due => .ok { t with due }
    | none => .error .instantOverflow
  else .ok { t with due := (ahead? t.due t.period).getD (now + farAhead) }

/-- Whether a tick is due. -/
def isDue (t : Ticker) (now : Instant) : Bool := decide (t.due ≤ now)

/-- How many ticks could be due by an instant, and one more. -/
def backlog (t : Ticker) (now : Instant) : Nat := (now - t.due) / t.period.nanos + 2

theorem due_of_tick {t t' : Ticker} {now : Instant} (h : t.tick now = .ok t') :
    t.due + t.period.nanos ≤ t'.due ∨
      endOfTime ≤ t.due + t.period.nanos ∧ t'.due = now + farAhead := by
  unfold tick at h
  split at h
  · rename_i late
    split at h
    · rename_i due e
      cases h
      unfold ahead? at e
      split at e
      · cases e
        have earlier : t.due ≤ now := Nat.le_of_lt (Nat.lt_of_le_of_lt (Nat.le_add_right ..) late)
        exact .inl (Nat.add_le_add_right earlier _)
      · cases e
    · cases h
  · cases h
    unfold ahead?
    split
    · exact .inl (Nat.le_refl _)
    · rename_i beyond
      exact .inr ⟨Nat.not_lt.mp beyond, rfl⟩

end Ticker

end ClusterAgent
