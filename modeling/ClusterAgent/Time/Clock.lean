/-
The clock that timers go by.

Time is read to the nanosecond, but a timer runs off only at whole milliseconds:
at the first one that is not before its deadline.

* `milliAt`, `instantOf` — between whole milliseconds and instants;
* `runsOffAt` — when the timer of a wait runs off, never for the longest wait;
* `pass` — let time pass up to a target and handle every timer on the way;
* `le_milliAt` — a timer never runs off early.
-/
import ClusterAgent.Time.Span

namespace ClusterAgent.Clock

/-- The instant of a whole millisecond. -/
def instantOf (ms : Nat) : Instant := ms * nanosPerMilli

/-- The first whole millisecond not before an instant. -/
def milliAt (t : Instant) : Nat := (t + nanosPerMilli - 1) / nanosPerMilli

/-- The millisecond at which the timer of a wait that begins now runs off. -/
def runsOffAt (now : Instant) (wait : Span) : Option Nat :=
  if wait = Span.longest then none else some (milliAt (now + wait.nanos))

theorem le_milliAt (t : Nat) : t ≤ instantOf (milliAt t) := by
  show t ≤ (t + 1000000 - 1) / 1000000 * 1000000
  omega

theorem milliAt_le {t ms : Nat} (h : t ≤ instantOf ms) : milliAt t ≤ ms := by
  have h : t ≤ ms * 1000000 := h
  show (t + 1000000 - 1) / 1000000 ≤ ms
  omega

/-- Let time pass from one millisecond to another. Whenever a timer runs off on
the way, and at the end, the state is settled. -/
def pass {σ ε : Type} (next : σ → Option Nat) (settle : Nat → σ → σ × List ε)
    (now target : Nat) (s : σ) : σ × List ε :=
  if now < target then
    let t := max (now + 1) (min target ((next s).getD target))
    let settled := settle t s
    let rest := pass next settle t target settled.1
    (rest.1, settled.2 ++ rest.2)
  else (s, [])
termination_by target - now

/-- The earlier of two times, either of which may be missing. -/
def earlier : Option Nat → Option Nat → Option Nat
  | none, t => t
  | t, none => t
  | some a, some b => some (min a b)

/-- The earliest of several times. -/
def earliest (ts : List (Option Nat)) : Option Nat := ts.foldl earlier none

end ClusterAgent.Clock
