/-
What the metrics say after many measurements.

Each measurement adds one to the counter it is counted in, and gives a sample if it
is one of a duration.  So the metrics after some measurements are those from before,
and the number of measurements of each kind on top.

* `Registry.count_recordAll` — one counter;
* `Registry.total_recordAll` — a metric, over all of its labels;
* `Registry.durations_recordAll` — the samples of durations under one method;
* `Registry.resources_recordAll` — the gauge, which the last one that sets it decides;
* `Registry.count_requests`, `Registry.total_requests`, `Registry.durations_requests` — the
  three for the requests among the measurements.
-/
import ClusterAgent.Telemetry.Notice
import Mathlib.Algebra.BigOperators.Group.List.Basic
import Mathlib.Algebra.GroupWithZero.Nat

namespace ClusterAgent

open Keyed

/-! ### Sums over keys -/

/-- Adding one at a key adds one to the sum over any keys that it is among. -/
theorem Keyed.sum_upsert_succ {κ : Type} [DecidableEq κ] (p : κ → Bool) (key : κ)
    (l : List (κ × Nat)) :
    (((upsert key (fun n => n.getD 0 + 1) l).filter (p ·.1)).map (·.2)).sum =
      ((l.filter (p ·.1)).map (·.2)).sum + if p key then 1 else 0 := by
  induction l with
  | nil => by_cases hp : p key <;> simp [upsert, hp]
  | cons kv rest ih =>
    obtain ⟨k, n⟩ := kv
    rw [upsert]
    split
    · rename_i hk
      subst hk
      by_cases hp : p k <;> simp [hp]
      omega
    · by_cases hk : p k <;> simp [hk, ih, Nat.add_assoc]

namespace Registry

/-! ### One measurement -/

/-- The sum of the counters of a metric. -/
def total (r : Registry) (m : Metric) : Nat :=
  ((r.counters.filter (·.1.1 = m)).map (·.2)).sum

/-- How many samples of durations wait under a method. -/
def durations (r : Registry) (method : String) : Nat :=
  ((lookup [("method", method)] r.fresh).getD []).flatten.length

theorem total_record (r : Registry) (m : Measurement) (metric : Metric) :
    (r.record m).total metric = r.total metric + if m.counted.1 = metric then 1 else 0 := by
  have hsum := sum_upsert_succ
    (fun k : Metric × Labels => decide (k.1 = metric)) m.counted r.counters
  simpa [total, record] using hsum

theorem length_flatten_pushSample (x : Float) (blocks : List (List Float)) :
    (pushSample x blocks).flatten.length = blocks.flatten.length + 1 := by
  rcases blocks with _ | ⟨block, older⟩
  · rfl
  · rw [pushSample]
    split
    · simp
      omega
    · simp

theorem durations_record (r : Registry) (m : Measurement) (method : String) :
    (r.record m).durations method =
      r.durations method + if m.sampled.map (·.1) = some method then 1 else 0 := by
  rcases h : m.sampled with _ | ⟨other, elapsed⟩
  · simp [durations, record, h]
  · by_cases hm : other = method
    · subst hm
      simp only [durations, record, h, lookup_upsert_self, Option.getD_some,
        length_flatten_pushSample, Option.map_some, if_true]
    · have hne : [("method", method)] ≠ [("method", other)] := by simp [Ne.symm hm]
      simp [durations, record, h, lookup_upsert_of_ne hne, hm]

/-! ### Many measurements -/

/-- What each measurement of a kind adds one to is in the end what was there and the number of
those measurements. -/
theorem recordAll_add (f : Registry → Nat) (p : Measurement → Bool)
    (hf : ∀ r m, f (r.record m) = f r + if p m then 1 else 0) (r : Registry) (ns : List Notice) :
    f (r.recordAll ns) = f r + (measurementsOf ns).countP p := by
  rw [recordAll]
  induction measurementsOf ns generalizing r with
  | nil => rfl
  | cons m ms ih =>
    rw [List.foldl_cons, ih, hf, List.countP_cons]
    omega

theorem count_recordAll (r : Registry) (ns : List Notice) (series : Metric × Labels) :
    (r.recordAll ns).count series =
      r.count series + (measurementsOf ns).countP (series = ·.counted) :=
  recordAll_add (·.count series) _
    (fun r m => by simp only [count_record r m series, decide_eq_true_eq]) r ns

theorem total_recordAll (r : Registry) (ns : List Notice) (metric : Metric) :
    (r.recordAll ns).total metric =
      r.total metric + (measurementsOf ns).countP (·.counted.1 = metric) :=
  recordAll_add (·.total metric) _
    (fun r m => by simp only [total_record r m metric, decide_eq_true_eq]) r ns

theorem durations_recordAll (r : Registry) (ns : List Notice) (method : String) :
    (r.recordAll ns).durations method =
      r.durations method + (measurementsOf ns).countP (·.sampled.map (·.1) = some method) :=
  recordAll_add (·.durations method) _
    (fun r m => by simp only [durations_record r m method, decide_eq_true_eq]) r ns

theorem resources_recordAll (r : Registry) (ns : List Notice) :
    (r.recordAll ns).resources =
      (((measurementsOf ns).filterMap Measurement.gauged).getLast?.map Float.ofNat).or
        r.resources := by
  rw [recordAll]
  induction measurementsOf ns generalizing r with
  | nil => rfl
  | cons m ms ih =>
    rw [List.foldl_cons, ih, List.filterMap_cons]
    rcases h : m.gauged with _ | n
    · simp [record, h]
    · cases hlast : (ms.filterMap Measurement.gauged).getLast? <;>
        simp [record, h, List.getLast?_cons, hlast]

end Registry

/-! ### Requests -/

/-- The request that a measurement counts, by method and status. -/
def Measurement.request? : Measurement → Option (String × Option Nat)
  | .clientRequest method status _ => some (method, status)
  | _ => none

/-- The request that a notice counts. -/
def Notice.request? (n : Notice) : Option (String × Option Nat) :=
  n.measurement?.bind Measurement.request?

/-- The label of a status in the metrics. -/
def statusLabel (status : Option Nat) : String := (status.map toString).getD "error"

/-- What is counted of measurements of requests only is counted of the requests. -/
theorem countP_measurementsOf {p : Measurement → Bool} {q : String × Option Nat → Bool}
    (h : ∀ m, p m = m.request?.any q) (ns : List Notice) :
    (measurementsOf ns).countP p = (ns.filterMap Notice.request?).countP q := by
  rw [measurementsOf, List.countP_filterMap, List.countP_filterMap]
  refine List.countP_congr fun n _ => ?_
  cases n with
  | logged event => rfl
  | measured m =>
    simp only [Notice.request?, Notice.measurement?, Option.bind_some, Option.map_some,
      Option.getD_some, h]
    cases m.request? <;> simp

namespace Registry

/-- A series of requests counts those of its method and status. -/
theorem count_requests (r : Registry) (ns : List Notice) (method status : String) :
    (r.recordAll ns).count (.clientRequests, [("method", method), ("status", status)]) =
      r.count (.clientRequests, [("method", method), ("status", status)]) +
        (ns.filterMap Notice.request?).countP fun q =>
          q.1 == method && statusLabel q.2 == status := by
  rw [count_recordAll, countP_measurementsOf]
  intro m
  rw [Bool.eq_iff_iff]
  cases m <;> simp [Measurement.counted, Measurement.request?, statusLabel, eq_comm (a := method),
    eq_comm (a := status)]

/-- Over all of its labels, the metric of requests counts them all. -/
theorem total_requests (r : Registry) (ns : List Notice) :
    (r.recordAll ns).total .clientRequests =
      r.total .clientRequests + (ns.filterMap Notice.request?).length := by
  rw [total_recordAll, countP_measurementsOf (q := fun _ => true), List.countP_true]
  intro m
  cases m <;> simp [Measurement.counted, Measurement.request?]

/-- There is a sample of a duration for every request of a method. -/
theorem durations_requests (r : Registry) (ns : List Notice) (method : String) :
    (r.recordAll ns).durations method =
      r.durations method + (ns.filterMap Notice.request?).countP (·.1 = method) := by
  rw [durations_recordAll, countP_measurementsOf]
  intro m
  cases m <;> simp [Measurement.sampled, Measurement.request?]

end Registry

end ClusterAgent
