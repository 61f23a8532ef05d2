/-
What a bucket may hold, and how it hands it out.

Whatever is asked of a bucket, in whatever order of instants, it holds no less than nothing and
no more than its capacity, and at one instant it grants as many attempts as it holds whole
tokens.  This is so with fractions and with doubles alike.

* `Bucket.Counts` — what it takes of an arithmetic: refilling stays in range and is done once
  at an instant, and one token is compared and taken off exactly;
* `Bucket.Within` — the range, `Bucket.Within.after` — which no attempt leaves;
* `Bucket.answers_replicate` — attempts at one instant;
* `Bucket.counts_fractions`, `Bucket.counts_doubles` — both arithmetics count;
* `Bucket.tokens_in_range` — both, for the limits of a configuration.

Design notes: doubles need no rounding argument here.  Rounding keeps the order, so what is cut
off at the capacity is below it; a gain that is too large for a double is infinite and cut off
likewise; and one less than a double of this size is a double.
-/
import ClusterAgent.Proofs.Rate.Doubles

namespace ClusterAgent

open Decimal

namespace Bucket

/-! ### Counting -/

section

variable {α : Type} [TokenArithmetic α] {l : Limits α} {worth : α → ℚ}

/-- Tokens that are worth no less than nothing and no more than the capacity. -/
def InRange (l : Limits α) (worth : α → ℚ) (x : α) : Prop :=
  0 ≤ worth x ∧ worth x ≤ worth l.capacity

/-- An arithmetic that counts tokens. -/
structure Counts (l : Limits α) (worth : α → ℚ) : Prop where
  capacity : 0 ≤ worth l.capacity
  inRange_refill : ∀ (b : Bucket α) (t : Instant), InRange l worth b.tokens →
    InRange l worth (b.refill l t).tokens
  /-- Refilled at the instant of the last refill, a bucket stays as it is. -/
  refill_self : ∀ (x : α) (t : Instant), InRange l worth x →
    (⟨x, t⟩ : Bucket α).refill l t = ⟨x, t⟩
  reaches_iff : ∀ x, InRange l worth x →
    (TokenArithmetic.reaches x TokenArithmetic.one = true ↔ 1 ≤ worth x)
  sub_one : ∀ x, InRange l worth x → 1 ≤ worth x →
    worth (TokenArithmetic.sub x TokenArithmetic.one) = worth x - 1

/-- A bucket that holds tokens in range. -/
def Within (l : Limits α) (worth : α → ℚ) (b : Bucket α) : Prop := InRange l worth b.tokens

variable {b : Bucket α} {t : Instant}

/-- An attempt on a refilled bucket: one token less, or none. -/
theorem Counts.tryTake_cases (h : Counts l worth) (hb : Within l worth b) (t : Instant) :
    (1 ≤ worth (b.refill l t).tokens ∧
      b.tryTake l t =
        (true, ⟨TokenArithmetic.sub (b.refill l t).tokens TokenArithmetic.one, t⟩)) ∨
    (worth (b.refill l t).tokens < 1 ∧ b.tryTake l t = (false, b.refill l t)) := by
  have hreaches := h.reaches_iff _ (h.inRange_refill b t hb)
  unfold tryTake
  dsimp only
  split
  · rename_i hyes
    exact .inl ⟨hreaches.mp hyes, rfl⟩
  · rename_i hno
    exact .inr ⟨not_le.mp (mt hreaches.mpr hno), rfl⟩

/-- An attempt finds what it would find if the bucket had been refilled at that instant before. -/
theorem Counts.tryTake_refill (h : Counts l worth) (hb : Within l worth b) (t : Instant) :
    (b.refill l t).tryTake l t = b.tryTake l t := by
  have hself : (b.refill l t).refill l t = b.refill l t :=
    h.refill_self _ t (h.inRange_refill b t hb)
  unfold Bucket.tryTake
  rw [hself]

theorem Counts.inRange_sub_one (h : Counts l worth) {x : α} (hx : InRange l worth x)
    (hone : 1 ≤ worth x) :
    InRange l worth (TokenArithmetic.sub x TokenArithmetic.one) := by
  rw [InRange, h.sub_one x hx hone]
  exact ⟨sub_nonneg.mpr hone, (sub_le_self _ zero_le_one).trans hx.2⟩

theorem Within.tryTake (hb : Within l worth b) (h : Counts l worth) (t : Instant) :
    Within l worth (b.tryTake l t).2 := by
  have hrefill := h.inRange_refill b t hb
  rcases h.tryTake_cases hb t with ⟨hone, htake⟩ | ⟨-, htake⟩
  · rw [htake]
    exact h.inRange_sub_one hrefill hone
  · rw [htake]
    exact hrefill

/-- Attempts at any instants leave a bucket in range. -/
theorem Within.after (hb : Within l worth b) (h : Counts l worth) (ts : List Instant) :
    Within l worth (Bucket.after l b ts) := by
  induction ts generalizing b with
  | nil => exact hb
  | cons t ts ih => exact ih (hb.tryTake h t)

theorem Counts.within_full (h : Counts l worth) (start : Instant) :
    Within l worth (full l.capacity start) := ⟨h.capacity, le_rfl⟩

/-! ### Attempts at one instant -/

/-- The answers to attempts at one instant: as many grants as there are whole tokens. -/
def handOut (tokens : ℚ) (n : ℕ) : List Bool :=
  List.replicate (min n ⌊tokens⌋₊) true ++ List.replicate (n - ⌊tokens⌋₊) false

theorem handOut_succ_of_one_le {tokens : ℚ} (h : 1 ≤ tokens) (n : ℕ) :
    handOut tokens (n + 1) = true :: handOut (tokens - 1) n := by
  have hfloor : 1 ≤ ⌊tokens⌋₊ := Nat.one_le_floor_iff tokens |>.mpr h
  have hmin : min (n + 1) ⌊tokens⌋₊ = min n (⌊tokens⌋₊ - 1) + 1 := by omega
  have hsub : n + 1 - ⌊tokens⌋₊ = n - (⌊tokens⌋₊ - 1) := by omega
  rw [handOut, handOut, Nat.floor_sub_one, hmin, hsub, List.replicate_succ, List.cons_append]

theorem handOut_succ_of_lt_one {tokens : ℚ} (h : tokens < 1) (n : ℕ) :
    handOut tokens (n + 1) = false :: handOut tokens n := by
  have hfloor : ⌊tokens⌋₊ = 0 := Nat.floor_eq_zero.mpr h
  rw [handOut, handOut, hfloor]
  simp [List.replicate_succ]

/-- Once it is refilled, a bucket hands out its whole tokens. -/
theorem Counts.answers_refilled (h : Counts l worth) {x : α} (hx : InRange l worth x)
    (t : Instant) (n : ℕ) :
    answers l ⟨x, t⟩ (List.replicate n t) = handOut (worth x) n := by
  induction n generalizing x with
  | zero => simp [answers, handOut]
  | succ n ih =>
    rw [List.replicate_succ, answers]
    -- The bucket is refilled already, so the attempt decides on what it holds.
    rcases h.tryTake_cases (b := ⟨x, t⟩) hx t with ⟨hone, htake⟩ | ⟨hnone, htake⟩
    · rw [h.refill_self x t hx] at hone htake
      rw [htake, ih (h.inRange_sub_one hx hone), h.sub_one x hx hone,
        handOut_succ_of_one_le hone]
    · rw [h.refill_self x t hx] at hnone htake
      rw [htake, ih hx, handOut_succ_of_lt_one hnone]

/-- Of attempts at one instant, as many are granted as the bucket holds whole tokens when it is
refilled for the first of them, and they come first. -/
theorem answers_replicate (h : Counts l worth) (hb : Within l worth b) (t : Instant) (n : ℕ) :
    answers l b (List.replicate n t) = handOut (worth (b.refill l t).tokens) n := by
  have hrefill := h.inRange_refill b t hb
  have hsame : answers l b (List.replicate n t) =
      answers l (b.refill l t) (List.replicate n t) := by
    cases n with
    | zero => rfl
    | succ n => rw [List.replicate_succ, answers, answers, h.tryTake_refill hb]
  rw [hsame]
  exact h.answers_refilled hrefill t n

end

/-! ### The two arithmetics -/

theorem nanos_between_self (t : Instant) : (Span.between t t).nanos = 0 := by
  have h := Span.nanos_between_le t t
  rwa [Nat.sub_self, Nat.le_zero] at h

theorem counts_fractions {l : Limits ℚ} (hl : l.Valid) : Counts l fun x : ℚ => x where
  capacity := zero_le_one.trans hl.one_le_capacity
  inRange_refill b t hb :=
    ⟨Sound.level_nonneg ⟨hb.1, hb.2⟩ hl t, level_le_capacity b l t⟩
  refill_self x t hx := by
    have hlevel := level_eq ⟨x, t⟩ l t
    rw [nanos_between_self, secondsOf_zero, zero_mul, add_zero, min_eq_left hx.2] at hlevel
    exact congrArg (Bucket.mk · t) hlevel
  reaches_iff _ _ := decide_eq_true_iff
  sub_one _ _ _ := rfl

theorem toSeconds_between_self (t : Instant) : code (Span.between t t).toSeconds = 0 := by
  have hzero : Span.between t t = Span.zero := Span.ext (nanos_between_self t)
  rw [hzero]
  decide +kernel

theorem counts_doubles {l : Limits Float} (hl : l.Fit)
    (hcapacity : code l.capacity < (1023 + 53) * 2 ^ 52) : Counts l size where
  capacity := size_nonneg _
  inRange_refill b t hb := by
    refine ⟨size_nonneg _, size_le_size_iff.mpr ?_⟩
    rw [code_refill hl (size_le_size_iff.mp hb.2) t]
    exact Nat.min_le_right _ _
  refill_self x t hx := by
    -- Over no time the gain is rounded from zero, and the sum from a size that is on the grid.
    have hcode := size_le_size_iff.mp hx.2
    have hgain := rounded_gain hl ⟨x, t⟩ t
    rw [size, toSeconds_between_self, grid_zero, zero_mul, ← grid_zero] at hgain
    have hfilled := rounded_filled hl (b := ⟨x, t⟩) hcode t
    rw [size, size, hgain.eq (rounded_grid (Nat.zero_le _)), grid_zero, add_zero] at hfilled
    have hsame := hfilled.eq (rounded_grid (hcode.trans hl.capacity_lt.le))
    have hrefill := code_refill hl (b := ⟨x, t⟩) hcode t
    rw [hsame, Nat.min_eq_left hcode] at hrefill
    exact congrArg (Bucket.mk · t) (eq_of_code_eq hrefill)
  reaches_iff x hx := by
    have hfinite : code x ≤ infinityCode := (size_le_size_iff.mp hx.2).trans hl.capacity_lt.le
    have hle := le_iff (x := 1) (y := x) (by decide +kernel) hfinite
    refine decide_eq_true_iff.trans (hle.trans ?_)
    rw [code_one, one_le_size_iff]
  sub_one x hx hone :=
    size_sub_one (one_le_size_iff.mp hone)
      (lt_of_le_of_lt (size_le_size_iff.mp hx.2) hcapacity)

end Bucket

/-! ### The limits of a configuration -/

/-- The limits of a rate limit, without rounding. -/
def RateLimit.fractions (r : RateLimit) : Limits ℚ := ⟨r.burst.toNat, size r.qps⟩

namespace RateLimit

variable {r : RateLimit}

theorem valid_fractions (hqps : IsPositive r.qps) (hburst : 1 ≤ r.burst) : r.fractions.Valid where
  one_le_capacity := by
    show (1 : ℚ) ≤ r.burst.toNat
    exact_mod_cast UInt32.le_iff_toNat_le.mp hburst
  rate_pos := by
    rw [fractions, size, ← grid_zero]
    exact grid_strictMono ((isPositive_iff r.qps).mp hqps).1

/-- A burst is a whole number that a double holds. -/
theorem size_capacity (r : RateLimit) : size r.limits.capacity = r.burst.toNat :=
  (rounded_uint32 r.burst).grid_eq (r.burst.toNat_lt.le.trans (by decide))

theorem code_capacity_lt (r : RateLimit) : code r.limits.capacity < (1023 + 53) * 2 ^ 52 := by
  rw [← grid_strictMono.lt_iff_lt, grid_pow, ← size, size_capacity]
  exact_mod_cast r.burst.toNat_lt.trans (by decide)

end RateLimit

namespace Bucket

/-- What lies within the capacity is a number, no less than nothing and no more than the
capacity, also as doubles are compared. -/
theorem Within.number {l : Limits Float} {b : Bucket Float} (hl : l.Fit) (h : Within l size b) :
    isFinite b.tokens = true ∧ 0 ≤ b.tokens ∧ b.tokens ≤ l.capacity := by
  have hcode : code b.tokens ≤ code l.capacity := size_le_size_iff.mp h.2
  have hlt : code b.tokens < infinityCode := lt_of_le_of_lt hcode hl.capacity_lt
  refine ⟨(isFinite_iff_lt hlt.le).mpr hlt, ?_, (le_iff hlt.le hl.capacity_lt.le).mpr hcode⟩
  rw [le_iff (by decide +kernel) hlt.le, code_zero]
  exact Nat.zero_le _

/-- **What a bucket holds.**  A bucket that was full at first, and then asked at any instants,
holds a number of tokens between zero and the burst.  Of any attempts at one instant that follow,
the first ones are granted, as many as it holds whole tokens when it is refilled for the first of
them, and all others are refused.  Both are so in fractions and in doubles. -/
theorem tokens_in_range (r : RateLimit) (hqps : IsPositive r.qps) (hburst : 1 ≤ r.burst)
    (start : Instant) (ts : List Instant) (t : Instant) (n : ℕ) :
    (let b := after r.fractions (full r.fractions.capacity start) ts
     (0 ≤ b.tokens ∧ b.tokens ≤ r.burst.toNat) ∧
       answers r.fractions b (List.replicate n t) = handOut (b.refill r.fractions t).tokens n) ∧
    (let b := after r.limits (full r.limits.capacity start) ts
     (isFinite b.tokens = true ∧ 0 ≤ b.tokens ∧ b.tokens ≤ r.burst.toFloat) ∧
       answers r.limits b (List.replicate n t) =
         handOut (size (b.refill r.limits t).tokens) n) := by
  have hfractions := counts_fractions (RateLimit.valid_fractions hqps hburst)
  have hfit := RateLimit.fit hqps hburst
  have hdoubles := counts_doubles hfit r.code_capacity_lt
  have hwithin := (hfractions.within_full start).after hfractions ts
  have hwithin' := (hdoubles.within_full start).after hdoubles ts
  have hnumber := hwithin'.number hfit
  refine ⟨⟨hwithin, ?_⟩, ⟨hnumber.1, hnumber.2.1, hnumber.2.2⟩, ?_⟩
  · exact answers_replicate hfractions hwithin t n
  · exact answers_replicate hdoubles hwithin' t n

/-- The highest rate there is, and room for three. -/
def flooded : RateLimit := ⟨Float.ofBits 0x7fefffffffffffff, 3⟩

/-- Asked at 10 s, then at 4 s and again at 4 s, it holds no token at once; at 9 s it has gained
infinitely many, of which it keeps and hands out three. -/
theorem three_of_infinitely_many :
    let b := after flooded.limits (full flooded.limits.capacity 0)
      [10000000000, 4000000000, 4000000000]
    code (b.gain flooded.limits 9000000000) = infinityCode ∧
      (isFinite b.tokens = true ∧ 0 ≤ b.tokens ∧ b.tokens ≤ flooded.burst.toFloat) ∧
      answers flooded.limits b (List.replicate 5 9000000000) =
        [true, true, true, false, false] := by
  intro b
  have hrange := (tokens_in_range flooded (by decide +kernel) (by decide) 0
    [10000000000, 4000000000, 4000000000] 9000000000 5).2
  have hthree : size (b.refill flooded.limits 9000000000).tokens = 3 := by
    have hcode : code (b.refill flooded.limits 9000000000).tokens =
        code flooded.limits.capacity := by decide +kernel
    rw [size, hcode, ← size, RateLimit.size_capacity]
    rfl
  refine ⟨by decide +kernel, hrange.1, ?_⟩
  have hfloor : ⌊(3 : ℚ)⌋₊ = 3 := Nat.floor_ofNat 3
  rw [hrange.2, hthree, handOut, hfloor]
  rfl

end Bucket

end ClusterAgent
