/-
The bucket in exact arithmetic.

Everything that is said of a bucket of fractions rests on one number, its level
at an instant: the tokens it would hold if it were refilled then.

* `Bucket.level_of_le` — between two instants the level gains what the rate
  gives for the time between them, and is cut off at the capacity;
* `Bucket.level_tryTake` — an attempt lowers the level of its own instant by the
  token it takes, and by nothing if it is refused;
* `Bucket.level_tryTake_le` — it raises the level of no later instant;
* `Bucket.Sound` — the tokens lie between zero and the capacity, and
  `Bucket.Sound.tryTake` keeps that.

Design notes: refilling twice is refilling once, because nothing is rounded.
That is what makes the level a function of the instant alone, whatever was asked
of the bucket in between.
-/
import ClusterAgent.Rate.Bucket
import Mathlib.Algebra.Order.Field.Rat
import Mathlib.Tactic.FieldSimp
import Mathlib.Tactic.Linarith
import Mathlib.Tactic.Positivity
import Mathlib.Tactic.Ring

namespace ClusterAgent

/-! ### Seconds -/

/-- A number of nanoseconds in seconds. -/
def secondsOf (nanos : Nat) : ℚ := nanos / (nanosPerSecond : ℚ)

theorem secondsOf_nonneg (n : Nat) : 0 ≤ secondsOf n := by
  rw [secondsOf]
  positivity

theorem secondsOf_zero : secondsOf 0 = 0 := by simp [secondsOf]

theorem secondsOf_add (m n : Nat) : secondsOf (m + n) = secondsOf m + secondsOf n := by
  rw [secondsOf, Nat.cast_add, add_div]
  rfl

theorem secondsOf_strictMono : StrictMono secondsOf := by
  intro m n h
  rw [secondsOf, secondsOf]
  exact div_lt_div_of_pos_right (by exact_mod_cast h) (by norm_num [nanosPerSecond])

/-- The time from one instant to another, by way of a third. -/
theorem secondsOf_sub {s t u : Instant} (hst : s ≤ t) (htu : t ≤ u) :
    secondsOf (u - s) = secondsOf (t - s) + secondsOf (u - t) := by
  rw [← secondsOf_add, Nat.add_comm]
  exact congrArg secondsOf (Nat.sub_add_sub_cancel htu hst).symm

theorem ofSpan_eq_secondsOf (d : Span) :
    (TokenArithmetic.ofSpan d : ℚ) = secondsOf d.nanos := by
  show mkRat d.nanos nanosPerSecond = _
  rw [secondsOf, Rat.mkRat_eq_div, Int.cast_natCast]

namespace Span

theorem nanos_between_le (a b : Instant) : (between a b).nanos ≤ b - a := by
  unfold between ofNanos ofNanos?
  split
  · rfl
  · exact Nat.sub_le_of_le_add (by omega)

theorem nanos_between {a b : Instant} (h : b - a < limit) : (between a b).nanos = b - a := by
  unfold between ofNanos ofNanos?
  rw [dif_pos h]
  rfl

theorem nanos_between_le_add (a t u : Instant) :
    (between a u).nanos ≤ (between a t).nanos + (u - t) := by
  have hsub : u - a ≤ (t - a) + (u - t) := by
    rw [Nat.add_comm]
    exact tsub_le_tsub_add_tsub
  by_cases ht : t - a < limit
  · rw [nanos_between ht]
    exact (nanos_between_le a u).trans hsub
  · -- The first span is the longest there is, so no other is longer.
    have hlast : (between a t).nanos = limit - 1 := by
      rw [between, ofNanos, ofNanos?, dif_neg ht]
      rfl
    rw [hlast]
    exact (Nat.le_sub_one_of_lt (between a u).lt_limit).trans (Nat.le_add_right _ _)

end Span

/-! ### Limits -/

/-- Limits that a configuration may hold: room for one token, and a rate that brings one. -/
structure Limits.Valid (l : Limits ℚ) : Prop where
  one_le_capacity : 1 ≤ l.capacity
  rate_pos : 0 < l.rate

namespace Bucket

variable {b : Bucket ℚ} {l : Limits ℚ} {t u : Instant}

/-! ### The level -/

/-- The tokens a bucket would hold if it were refilled at an instant. -/
def level (b : Bucket ℚ) (l : Limits ℚ) (t : Instant) : ℚ := (b.refill l t).tokens

theorem level_eq (b : Bucket ℚ) (l : Limits ℚ) (t : Instant) :
    b.level l t =
      min (b.tokens + secondsOf (Span.between b.updated t).nanos * l.rate) l.capacity := by
  show (if l.capacity < b.tokens + TokenArithmetic.ofSpan (Span.between b.updated t) * l.rate
    then l.capacity else b.tokens + TokenArithmetic.ofSpan (Span.between b.updated t) * l.rate) = _
  rw [ofSpan_eq_secondsOf, min_def]
  split <;> split <;> first | rfl | linarith

theorem level_le_capacity (b : Bucket ℚ) (l : Limits ℚ) (t : Instant) :
    b.level l t ≤ l.capacity := by
  rw [level_eq]
  exact min_le_right ..

theorem level_full (hr : 0 ≤ l.rate) (start t : Instant) :
    (full l.capacity start : Bucket ℚ).level l t = l.capacity := by
  rw [level_eq]
  refine min_eq_right ?_
  have h : 0 ≤ secondsOf (Span.between start t).nanos * l.rate :=
    mul_nonneg (secondsOf_nonneg _) hr
  exact le_add_of_nonneg_right h

/-- The level of a later instant follows from that of an earlier one. -/
theorem level_of_le (hr : 0 ≤ l.rate) (ht : b.updated ≤ t) (htu : t ≤ u)
    (hu : u - b.updated < Span.limit) :
    b.level l u = min (b.level l t + secondsOf (u - t) * l.rate) l.capacity := by
  have hfirst : t - b.updated < Span.limit := lt_of_le_of_lt (Nat.sub_le_sub_right htu _) hu
  have hgain : 0 ≤ secondsOf (u - t) * l.rate := mul_nonneg (secondsOf_nonneg _) hr
  -- What was cut off at the earlier instant would be cut off at the later one.
  rw [level_eq, level_eq, Span.nanos_between hu, Span.nanos_between hfirst, secondsOf_sub ht htu,
    add_mul, ← add_assoc, ← min_add_add_right, min_assoc,
    min_eq_right (le_add_of_nonneg_right hgain)]

/-- The level gains no more than the rate gives, however far the instants lie apart. -/
theorem level_le_add (hr : 0 ≤ l.rate) (b : Bucket ℚ) (t u : Instant) :
    b.level l u ≤ b.level l t + secondsOf (u - t) * l.rate := by
  have hgain : 0 ≤ secondsOf (u - t) * l.rate := mul_nonneg (secondsOf_nonneg _) hr
  have hnanos := secondsOf_strictMono.monotone (Span.nanos_between_le_add b.updated t u)
  have hmul := mul_le_mul_of_nonneg_right hnanos hr
  rw [secondsOf_add, add_mul] at hmul
  rw [level_eq, level_eq, ← min_add_add_right]
  exact min_le_min (by linarith) (le_add_of_nonneg_right hgain)

/-! ### Attempts -/

theorem tryTake_eq_true_iff : (b.tryTake l t).1 = true ↔ 1 ≤ b.level l t := by
  unfold tryTake
  dsimp only
  split
  · rename_i h
    exact iff_of_true rfl (of_decide_eq_true h)
  · rename_i h
    exact iff_of_false Bool.false_ne_true fun hl => h (decide_eq_true hl)

theorem tryTake_eq_false_iff : (b.tryTake l t).1 = false ↔ b.level l t < 1 := by
  rw [← Bool.not_eq_true, tryTake_eq_true_iff, not_le]

theorem tryTake_tokens (b : Bucket ℚ) (l : Limits ℚ) (t : Instant) :
    (b.tryTake l t).2.tokens = b.level l t - if (b.tryTake l t).1 then 1 else 0 := by
  unfold tryTake
  dsimp only
  split
  · rfl
  · exact (sub_zero _).symm

/-- What an attempt leaves of the level of any instant. -/
theorem level_tryTake (b : Bucket ℚ) (l : Limits ℚ) (t u : Instant) :
    (b.tryTake l t).2.level l u =
      min (b.level l t - (if (b.tryTake l t).1 then 1 else 0) +
        secondsOf (Span.between t u).nanos * l.rate) l.capacity := by
  rw [level_eq, tryTake_tokens, tryTake_updated]

theorem level_tryTake_self (b : Bucket ℚ) (l : Limits ℚ) (t : Instant) :
    (b.tryTake l t).2.level l t = b.level l t - if (b.tryTake l t).1 then 1 else 0 := by
  have hzero : (Span.between t t).nanos = 0 := by
    have h := Span.nanos_between_le t t
    omega
  rw [level_tryTake, hzero, secondsOf_zero, zero_mul, add_zero]
  -- Nothing is cut off, since the level was no higher before.
  refine min_eq_left (le_trans ?_ (level_le_capacity b l t))
  split
  · linarith
  · exact (sub_zero _).le

theorem level_tryTake_self_le (b : Bucket ℚ) (l : Limits ℚ) (t : Instant) :
    (b.tryTake l t).2.level l t ≤ b.level l t := by
  rw [level_tryTake_self]
  split
  · linarith
  · exact (sub_zero _).le

theorem level_lt_one_of_refused (h : (b.tryTake l t).1 = false) :
    (b.tryTake l t).2.level l t < 1 :=
  lt_of_le_of_lt (level_tryTake_self_le b l t) (tryTake_eq_false_iff.mp h)

theorem level_tryTake_le (hr : 0 ≤ l.rate) (ht : b.updated ≤ t) (htu : t ≤ u)
    (hu : u - b.updated < Span.limit) :
    (b.tryTake l t).2.level l u ≤ b.level l u := by
  have hrest : u - t < Span.limit := lt_of_le_of_lt (Nat.sub_le_sub_left ht u) hu
  -- Both levels grow from the level of the attempt, one of them a token lower.
  rw [level_tryTake, level_of_le hr ht htu hu, Span.nanos_between hrest]
  refine min_le_min_right _ (add_le_add_left ?_ _)
  split
  · linarith
  · exact (sub_zero _).le

/-! ### Sound buckets -/

/-- A bucket that holds no debt and no more than its capacity. -/
structure Sound (b : Bucket ℚ) (l : Limits ℚ) : Prop where
  tokens_nonneg : 0 ≤ b.tokens
  tokens_le : b.tokens ≤ l.capacity

theorem sound_full (hl : l.Valid) (start : Instant) :
    (full l.capacity start : Bucket ℚ).Sound l :=
  ⟨zero_le_one.trans hl.one_le_capacity, le_refl _⟩

theorem Sound.level_nonneg (h : b.Sound l) (hl : l.Valid) (t : Instant) : 0 ≤ b.level l t := by
  rw [level_eq]
  have hgain : 0 ≤ secondsOf (Span.between b.updated t).nanos * l.rate :=
    mul_nonneg (secondsOf_nonneg _) hl.rate_pos.le
  exact le_min (add_nonneg h.tokens_nonneg hgain) (by linarith [hl.one_le_capacity])

theorem Sound.tryTake (h : b.Sound l) (hl : l.Valid) (t : Instant) :
    (b.tryTake l t).2.Sound l := by
  have hnonneg := h.level_nonneg hl t
  have hle := level_le_capacity b l t
  constructor
  · rw [tryTake_tokens]
    split
    · rename_i hg
      linarith [tryTake_eq_true_iff.mp hg]
    · linarith
  · rw [tryTake_tokens]
    split <;> linarith

end Bucket

end ClusterAgent
