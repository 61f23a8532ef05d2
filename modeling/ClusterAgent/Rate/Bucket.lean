/-
The token bucket.

A bucket holds tokens up to a capacity and gains them at a rate; each grant
takes one.  The one definition is run with two arithmetics: with doubles, as the
agent does, and with exact fractions, in which its laws are stated.

* `Bucket.tryTake` — refill for the time that passed, then take a token if there
  is one;
* `Bucket.waitFor` — how long until a token is there if nobody else takes one;
* `Bucket.tryTake_updated` — every call moves the time of the last refill, also
  one that is refused or that comes from the past.

Design notes: capacity and rate come with every call and are not kept, so the
same bucket serves the limiter of requests and the limiter of events.  An
instant before the last refill counts as no time passed.
-/
import ClusterAgent.Decimal.Binary
import ClusterAgent.Telemetry.Registry

namespace ClusterAgent

/-- The arithmetic that a bucket computes with. -/
class TokenArithmetic (α : Type) where
  zero : α
  one : α
  add : α → α → α
  sub : α → α → α
  mul : α → α → α
  div : α → α → α
  /-- The smaller of two amounts. -/
  least : α → α → α
  /-- The larger of two amounts. -/
  most : α → α → α
  /-- Whether the first amount is at least the second. -/
  reaches : α → α → Bool
  /-- A span in seconds. -/
  ofSpan : Span → α
  /-- The span nearest to a number of seconds, if one is near. -/
  toSpan? : α → Option Span

/-! ### Exact fractions -/

/-- The span nearest to a number of seconds; none for what is negative or too long. -/
def Rat.toSpan? (q : Rat) : Option Span :=
  if q < 0 then none
  else Span.ofNanos? (Decimal.nearestEven (q.num.toNat * nanosPerSecond) q.den)

instance : TokenArithmetic Rat where
  zero := 0
  one := 1
  add := (· + ·)
  sub := (· - ·)
  mul := (· * ·)
  div := (· / ·)
  least a b := if b < a then b else a
  most a b := if a < b then b else a
  reaches a b := b ≤ a
  ofSpan d := mkRat d.nanos nanosPerSecond
  toSpan? := Rat.toSpan?

/-! ### Doubles -/

/-- The smaller of two doubles; next to a NaN, the other one. -/
def leastDouble (x y : Float) : Float :=
  if x.isNaN then y else if y.isNaN then x else if y < x then y else x

/-- The larger of two doubles; next to a NaN, the other one. -/
def mostDouble (x y : Float) : Float :=
  if x.isNaN then y else if y.isNaN then x else if x < y then y else x

/-- The span nearest to a number of seconds, a half going to the even
nanosecond; none for what is negative, too long or not a number. -/
def doubleToSpan? (x : Float) : Option Span :=
  if x < 0 || !Decimal.isFinite x then none
  else
    let b := Decimal.Binary.ofFloat x
    let (num, den) := Decimal.scaled (b.mantissa * nanosPerSecond) b.exponent
    Span.ofNanos? (Decimal.nearestEven num den)

instance : TokenArithmetic Float where
  zero := 0
  one := 1
  add := (· + ·)
  sub := (· - ·)
  mul := (· * ·)
  div := (· / ·)
  least := leastDouble
  most := mostDouble
  reaches x y := y ≤ x
  ofSpan := Span.toSeconds
  toSpan? := doubleToSpan?

/-! ### Buckets -/

/-- Capacity and rate of a bucket. -/
structure Limits (α : Type) where
  capacity : α
  rate : α

/-- A rate limit as it is asked for: a sustained rate of tokens per second, and the most that
can be saved up. -/
structure RateLimit where
  qps : Float
  burst : UInt32

/-- The limits of a rate limit, in doubles. -/
def RateLimit.limits (r : RateLimit) : Limits Float := ⟨r.burst.toFloat, r.qps⟩

/-- Tokens and the time of the last refill. -/
structure Bucket (α : Type) where
  tokens : α
  updated : Instant

namespace Bucket

variable {α : Type} [TokenArithmetic α]

open TokenArithmetic

/-- A full bucket. -/
def full (capacity : α) (now : Instant) : Bucket α := ⟨capacity, now⟩

/-- Add the tokens for the time that passed, up to the capacity. -/
def refill (b : Bucket α) (l : Limits α) (now : Instant) : Bucket α where
  tokens := least (add b.tokens (mul (ofSpan (Span.between b.updated now)) l.rate)) l.capacity
  updated := now

/-- Refill, then take a token if there is one. -/
def tryTake (b : Bucket α) (l : Limits α) (now : Instant) : Bool × Bucket α :=
  let b := b.refill l now
  if reaches b.tokens one then (true, { b with tokens := sub b.tokens one }) else (false, b)

/-- The time until one token is there, the longest span if none tells. -/
def waitFor (b : Bucket α) (rate : α) : Span :=
  (toSpan? (div (most (sub one b.tokens) zero) rate)).getD Span.longest

@[simp] theorem tryTake_updated (b : Bucket α) (l : Limits α) (now : Instant) :
    (b.tryTake l now).2.updated = now := by
  unfold tryTake
  dsimp only
  split <;> rfl

end Bucket

end ClusterAgent
