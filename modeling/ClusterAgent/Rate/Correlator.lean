/-
Limiting events per object.

Each object has a bucket of its own, made full when its first event comes.

* `Correlator.allow` — whether an event for an object may be emitted;
* `Correlator.run` — calls for any objects in turn;
* `Correlator.bucketOf_allow_of_ne` — a call for one object never touches the
  bucket of another;
* `Correlator.bucketOf_allow_self` — and moves the object's own bucket as one
  attempt does.
-/
import ClusterAgent.Keyed
import ClusterAgent.Rate.Bucket
import ClusterAgent.Telemetry.Notice

namespace ClusterAgent

/-- The buckets of all objects that had an event. -/
structure Correlator (α : Type) where
  limits : Limits α
  buckets : List (String × Bucket α)

namespace Correlator

variable {α : Type} [TokenArithmetic α]

/-- No object had an event yet. -/
def new (limits : Limits α) : Correlator α := ⟨limits, []⟩

/-- The bucket of an object, if it had an event. -/
def bucketOf (c : Correlator α) (object : String) : Option (Bucket α) :=
  Keyed.lookup object c.buckets

/-- The bucket an event for the object is judged by at an instant. -/
def bucketAt (c : Correlator α) (object : String) (now : Instant) : Bucket α :=
  (c.bucketOf object).getD (Bucket.full c.limits.capacity now)

/-- How many objects had an event. -/
def tracked (c : Correlator α) : Nat := c.buckets.length

/-- What a refusal gives rise to. -/
def refusal (object : String) : List Notice :=
  [.measured .eventSuppressed, .logged (.eventSuppressed object)]

/-- Whether an event for the object may be emitted now. -/
def allow (c : Correlator α) (object : String) (now : Instant) :
    Bool × Correlator α × List Notice :=
  let (allowed, bucket) := (c.bucketAt object now).tryTake c.limits now
  let c := { c with buckets := Keyed.upsert object (fun _ => bucket) c.buckets }
  (allowed, c, if allowed then [] else refusal object)

/-- Calls for events in turn: the answers, the correlator after them, and what they give rise to. -/
def run (c : Correlator α) : List (String × Instant) → List Bool × Correlator α × List Notice
  | [] => ([], c, [])
  | (object, now) :: calls =>
    let (allowed, c, ns) := c.allow object now
    let (answers, c, more) := c.run calls
    (allowed :: answers, c, ns ++ more)

theorem run_append (c : Correlator α) (xs ys : List (String × Instant)) :
    c.run (xs ++ ys) =
      let front := c.run xs
      let back := front.2.1.run ys
      (front.1 ++ back.1, back.2.1, front.2.2 ++ back.2.2) := by
  induction xs generalizing c with
  | nil => rfl
  | cons x xs ih => simp [run, ih]

theorem bucketOf_allow_self (c : Correlator α) (object : String) (now : Instant) :
    (c.allow object now).2.1.bucketOf object =
      some ((c.bucketAt object now).tryTake c.limits now).2 := by
  simp [allow, bucketOf, Keyed.lookup_upsert_self]

theorem bucketOf_allow_of_ne (c : Correlator α) {object other : String} (ne : other ≠ object)
    (now : Instant) : (c.allow object now).2.1.bucketOf other = c.bucketOf other := by
  simp [allow, bucketOf, Keyed.lookup_upsert_of_ne ne]

end Correlator

end ClusterAgent
