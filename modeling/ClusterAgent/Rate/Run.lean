/-
A limiter in many hands.

A handle, its copies, the clients that are connected from it and the services of those
clients all hold one limiter.  Any of them may take a token at once or begin to wait for
one; whoever waits tries again when a timer runs off, and may give up while it waits.

* `LimiterRun.step` — one thing that happens to a limiter;
* `LimiterRun.run` — such things in any order, each at its instant.

Design notes: an action does not say in whose hands the limiter was, since the limiter
does not know either.  Those who wait have numbers that go up as they begin.  A waiter may
try again at any time, due or not, and what cannot be done does nothing, so any sequence
of actions is a run.
-/
import ClusterAgent.Rate.Limiter

namespace ClusterAgent

/-- A limiter, and the least number for the next one who asks it to wait. -/
structure LimiterRun (α : Type) where
  limiter : Limiter α
  fresh : RequestId

namespace LimiterRun

/-- One thing that happens. -/
inductive Action where
  /-- Somebody takes a token without waiting. -/
  | tryAcquire
  /-- Somebody under a number above all before takes a token or begins to wait. -/
  | acquire (id : RequestId)
  /-- A waiter tries again. -/
  | wake (id : RequestId)
  /-- A waiter gives up. -/
  | abort (id : RequestId)

/-- What is known of it. -/
inductive Event where
  /-- The bucket is asked for a token, for one who would wait or for one who would not. -/
  | asked (who : Option RequestId) (now : Instant)
  /-- What is said to one who does not wait. -/
  | tried (got : Bool)
  | began (id : RequestId)
  /-- One who asked to wait has a token. -/
  | completed (id : RequestId)
  | aborted (id : RequestId)
  | notice (n : Notice)

variable {α : Type} [TokenArithmetic α]

/-- A limiter that nobody has used yet. -/
def new (limits : Limits α) (start : Instant) : LimiterRun α := ⟨Limiter.new limits start, 0⟩

/-- Whether somebody waits. -/
def isWaiting (s : LimiterRun α) (id : RequestId) : Bool := s.limiter.waiters.any (·.id == id)

/-- One who asked to wait has a token now, or has none. -/
def outcome (id : RequestId) (got : Bool) : List Event := if got then [.completed id] else []

/-- One thing happens. -/
def step (s : LimiterRun α) (now : Instant) : Action → LimiterRun α × List Event
  | .tryAcquire =>
    let (got, limiter) := s.limiter.tryAcquire now
    ({ s with limiter }, [.asked none now, .tried got])
  | .acquire id =>
    if id < s.fresh then (s, [])
    else
      let (got, limiter, ns) := s.limiter.acquire id now
      (⟨limiter, id + 1⟩,
        [.began id, .asked (some id) now] ++ outcome id got ++ ns.map .notice)
  | .wake id =>
    if s.isWaiting id then
      let (got, limiter) := s.limiter.retry id now
      ({ s with limiter }, .asked (some id) now :: outcome id got)
    else (s, [])
  | .abort id =>
    if s.isWaiting id then ({ s with limiter := s.limiter.abandon id }, [.aborted id])
    else (s, [])

/-- Things happen one after the other, each at its instant. -/
def run (s : LimiterRun α) : List (Instant × Action) → LimiterRun α × List Event
  | [] => (s, [])
  | (now, a) :: rest =>
    let (s, es) := s.step now a
    let (s, more) := s.run rest
    (s, es ++ more)

theorem run_one (s : LimiterRun α) (now : Instant) (a : Action) :
    s.run [(now, a)] = s.step now a := by
  simp [run]

theorem run_append (s : LimiterRun α) (xs ys : List (Instant × Action)) :
    s.run (xs ++ ys) =
      let front := s.run xs
      let back := front.1.run ys
      (back.1, front.2 ++ back.2) := by
  induction xs generalizing s with
  | nil => rfl
  | cons x xs ih => simp [run, ih]

end LimiterRun

end ClusterAgent
