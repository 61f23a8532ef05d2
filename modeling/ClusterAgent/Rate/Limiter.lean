/-
The limiter of requests.

All clients of the agent share one limiter.  A request takes a token at once, or
it becomes a waiter that sleeps until a token should be there and then tries
again.

* `Limiter.tryAcquire` — take a token without waiting;
* `Limiter.acquire` — take one or become a waiter; a throttled request is told of
  once, however often it tries again;
* `Limiter.retry` — what a waiter does when its timer runs off;
* `Limiter.abandon` — a waiter gives up, and leaves the bucket as it is;
* `Limiter.settle` — every waiter that is due tries again.

Design notes: each waiter keeps the time of its own timer, worked out from the
bucket as it was when the waiter last tried.
-/
import ClusterAgent.Rate.Bucket
import ClusterAgent.Telemetry.Notice
import ClusterAgent.Time.Clock

namespace ClusterAgent

/-- Who waits for a token. -/
abbrev RequestId := Nat

/-- A request that waits, and the millisecond at which its timer runs off. -/
structure Waiter where
  id : RequestId
  wakesAt : Option Nat
deriving DecidableEq

/-- A bucket that is shared, and those who wait for it in the order they came. -/
structure Limiter (α : Type) where
  limits : Limits α
  bucket : Bucket α
  waiters : List Waiter

namespace Limiter

variable {α : Type} [TokenArithmetic α]

/-- A limiter with a full bucket. -/
def new (limits : Limits α) (now : Instant) : Limiter α :=
  ⟨limits, Bucket.full limits.capacity now, []⟩

/-- Take a token without waiting. -/
def tryAcquire (l : Limiter α) (now : Instant) : Bool × Limiter α :=
  let (got, bucket) := l.bucket.tryTake l.limits now
  (got, { l with bucket })

/-- The time until a token should be there. -/
def wait (l : Limiter α) : Span := l.bucket.waitFor l.limits.rate

/-- Take a token, or begin to wait for one. -/
def acquire (l : Limiter α) (id : RequestId) (now : Instant) : Bool × Limiter α × List Notice :=
  let (got, l) := l.tryAcquire now
  if got then (true, l, [])
  else
    let waiter : Waiter := ⟨id, Clock.runsOffAt now l.wait⟩
    (false, { l with waiters := l.waiters ++ [waiter] },
      [.measured .clientThrottled, .logged (.requestThrottled l.wait)])

/-- A waiter whose timer ran off tries again, and waits on if it is refused. -/
def retry (l : Limiter α) (id : RequestId) (now : Instant) : Bool × Limiter α :=
  let (got, l) := l.tryAcquire now
  if got then (true, { l with waiters := l.waiters.filter (·.id != id) })
  else
    let again (w : Waiter) : Waiter :=
      if w.id = id then { w with wakesAt := Clock.runsOffAt now l.wait } else w
    (false, { l with waiters := l.waiters.map again })

/-- A waiter gives up. -/
def abandon (l : Limiter α) (id : RequestId) : Limiter α :=
  { l with waiters := l.waiters.filter (·.id != id) }

/-- Whether the timer of a waiter has run off. -/
def isDue (ms : Nat) (w : Waiter) : Bool := w.wakesAt.any (· ≤ ms)

/-- The next time that a timer runs off. -/
def nextWake (l : Limiter α) : Option Nat := Clock.earliest (l.waiters.map (·.wakesAt))

/-- Those of the requests that get a token when they try again in turn. -/
def retryAll (now : Instant) : List RequestId → Limiter α → Limiter α × List RequestId
  | [], l => (l, [])
  | id :: rest, l =>
    let (got, l) := l.retry id now
    let (l, granted) := retryAll now rest l
    (l, if got then id :: granted else granted)

/-- Every waiter that is due at a millisecond tries again, in the order they
came. Those that get their token are told. -/
def settle (ms : Nat) (l : Limiter α) : Limiter α × List RequestId :=
  retryAll (Clock.instantOf ms) ((l.waiters.filter (isDue ms)).map (·.id)) l

/-- Let time pass, and tell who gets a token meanwhile. -/
def advance (now target : Nat) (l : Limiter α) : Limiter α × List RequestId :=
  Clock.pass nextWake settle now target l

end Limiter

end ClusterAgent
