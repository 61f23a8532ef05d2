/-
The bucket in doubles.

The agent's buckets compute with doubles.  Their tokens are without sign, so all that happens
to them is rounding on the grid.

* `Span.le_size_toSeconds`, `Span.size_toSeconds_le`, `Span.toSeconds_mono` — a span in seconds
  is rounded three times, and changes little by it, and the order of spans not at all;
* `Limits.Fit` — the limits that a validated configuration holds, `RateLimit.fit`;
* `Bucket.tryTake_cases` — an attempt is granted when tokens and gain, as computed, come to
  one; `Bucket.granted_mono` — later it is granted all the more;
* `Bucket.tokens_after_le` — no bucket ever holds more than its capacity.
-/
import ClusterAgent.Proofs.Decimal.Doubles
import ClusterAgent.Proofs.Rate.Envelope
import ClusterAgent.Rate.Bucket

namespace ClusterAgent

open Decimal

variable {x y : Float}

theorem code_leastDouble (hx : code x ≤ infinityCode) (hy : code y ≤ infinityCode) :
    code (leastDouble x y) = min (code x) (code y) := by
  rw [leastDouble, isNaN_eq_false hx, isNaN_eq_false hy, if_neg Bool.false_ne_true,
    if_neg Bool.false_ne_true]
  split
  · rename_i hlt
    exact (Nat.min_eq_right ((lt_iff hy hx).mp hlt).le).symm
  · rename_i hge
    exact (Nat.min_eq_left (not_lt.mp (mt (lt_iff hy hx).mpr hge))).symm

theorem code_mostDouble (hx : code x ≤ infinityCode) (hy : code y ≤ infinityCode) :
    code (mostDouble x y) = max (code x) (code y) := by
  rw [mostDouble, isNaN_eq_false hx, isNaN_eq_false hy, if_neg Bool.false_ne_true,
    if_neg Bool.false_ne_true]
  split
  · rename_i hlt
    exact (Nat.max_eq_right ((lt_iff hx hy).mp hlt).le).symm
  · rename_i hge
    exact (Nat.max_eq_left (not_lt.mp (mt (lt_iff hx hy).mpr hge))).symm

/-! ### Seconds -/

namespace Span

variable (d : Span)

/-- The seconds beyond the whole ones, as computed. -/
def partSeconds : Float := Float.ofNat d.subsecond / 1000000000

theorem rounded_partSeconds : Rounded (secondsOf d.subsecond) (code d.partSeconds) := by
  have hsecond : nanosPerSecond < 2 ^ 30 := by decide
  have hlt : d.subsecond < 2 ^ 30 := lt_trans (Nat.mod_lt _ (by decide)) hsecond
  have hsub : size (Float.ofNat d.subsecond) = d.subsecond :=
    (rounded_ofNat _).grid_eq (hlt.le.trans (by decide))
  have hdenominator : size 1000000000 = nanosPerSecond :=
    (rounded_ofNat 1000000000).grid_eq (by decide)
  have hfinite : code (Float.ofNat d.subsecond) < infinityCode :=
    lt_of_le_of_lt (code_ofNat_le hlt.le (by decide)) (by decide)
  have hdiv := rounded_div (x := Float.ofNat d.subsecond) (y := 1000000000) hfinite
    (by decide +kernel) (by decide +kernel)
  rwa [hsub, hdenominator] at hdiv

theorem partSeconds_lt_one : code d.partSeconds < oneCode := by
  have hlt : (d.subsecond : ℚ) ≤ 999999999 := by
    exact_mod_cast Nat.le_pred_of_lt (Nat.mod_lt _ (by decide) : d.subsecond < nanosPerSecond)
  have hpart : (d.subsecond : ℚ) / nanosPerSecond < 1 - 1 / 2 ^ 54 := by
    rw [nanosPerSecond, div_lt_iff₀ (by norm_num)]
    norm_num
    linarith
  obtain ⟨k, hk, hmin⟩ := d.rounded_partSeconds
  rw [hmin]
  exact lt_of_le_of_lt (Nat.min_le_left _ _) (hk.lt_oneCode hpart)

theorem size_partSeconds_lt : size d.partSeconds < 1 := by
  rw [← grid_oneCode]
  exact grid_strictMono d.partSeconds_lt_one

theorem seconds_lt : d.seconds < 2 ^ 64 :=
  Nat.div_lt_of_lt_mul (by rw [Nat.mul_comm]; exact d.lt_limit)

theorem code_ofNat_seconds_le : code (Float.ofNat d.seconds) ≤ (1023 + 64) * 2 ^ 52 :=
  code_ofNat_le d.seconds_lt.le (by decide)

theorem rounded_toSeconds :
    Rounded (size (Float.ofNat d.seconds) + size d.partSeconds) (code d.toSeconds) :=
  rounded_add (d.code_ofNat_seconds_le.trans (by decide))
    (d.partSeconds_lt_one.le.trans (by decide))

theorem toSeconds_lt : code d.toSeconds < infinityCode := by
  have hwhole : size (Float.ofNat d.seconds) ≤ 2 ^ 64 := by
    rw [← grid_pow]
    exact grid_strictMono.monotone d.code_ofNat_seconds_le
  have hle : size (Float.ofNat d.seconds) + size d.partSeconds ≤ grid ((1023 + 65) * 2 ^ 52) := by
    rw [grid_pow]
    linarith [d.size_partSeconds_lt]
  exact lt_of_le_of_lt (d.rounded_toSeconds.le_of_le_grid hle (by decide)) (by decide)

theorem secondsOf_nanos : secondsOf d.nanos = d.seconds + secondsOf d.subsecond := by
  have hd : d.seconds * nanosPerSecond + d.subsecond = d.nanos := Nat.div_add_mod' ..
  have hsecond : (nanosPerSecond : ℚ) ≠ 0 := by norm_num [nanosPerSecond]
  rw [← hd, secondsOf_add, secondsOf, Nat.cast_mul, mul_div_cancel_right₀ _ hsecond]

/-- Even a nanosecond is normal, also after it is rounded. -/
theorem grid_normalCode_mul_le : grid normalCode * (1 + 1 / 2 ^ 53) ≤ secondsOf 1 := by
  have hnormal := grid_normalCode_le
  norm_num [secondsOf, nanosPerSecond] at hnormal ⊢
  linarith

theorem grid_normalCode_le_secondsOf {n : ℕ} (hn : 0 < n) : grid normalCode ≤ secondsOf n := by
  have hmul : grid normalCode ≤ grid normalCode * (1 + 1 / 2 ^ 53) :=
    le_mul_of_one_le_right (grid_nonneg _) (by norm_num)
  exact (hmul.trans grid_normalCode_mul_le).trans (secondsOf_strictMono.monotone hn)

theorem grid_normalCode_le_of_pos {n : ℕ} (hn : (0 : ℚ) < n) : grid normalCode ≤ n := by
  have hone : (1 : ℚ) ≤ n := by exact_mod_cast hn
  refine grid_normalCode_le.trans (le_trans ?_ hone)
  norm_num

theorem pos_of_secondsOf_pos {n : ℕ} (h : 0 < secondsOf n) : 0 < n := by
  refine Nat.pos_of_ne_zero ?_
  rintro rfl
  rw [secondsOf_zero] at h
  exact lt_irrefl _ h

theorem le_size_seconds :
    (d.seconds : ℚ) ≤ size (Float.ofNat d.seconds) * (1 + 1 / 2 ^ 53) := by
  exact (rounded_ofNat d.seconds).le_mul
    (lt_of_le_of_lt d.code_ofNat_seconds_le (by decide)) grid_normalCode_le_of_pos

theorem le_size_partSeconds : secondsOf d.subsecond ≤ size d.partSeconds * (1 + 1 / 2 ^ 53) := by
  exact d.rounded_partSeconds.le_mul (lt_trans d.partSeconds_lt_one (by decide)) fun hpos =>
    grid_normalCode_le_secondsOf (pos_of_secondsOf_pos hpos)

/-- What is left of a span after the two parts are rounded. -/
theorem secondsOf_nanos_le_parts : secondsOf d.nanos ≤
    (size (Float.ofNat d.seconds) + size d.partSeconds) * (1 + 1 / 2 ^ 53) := by
  rw [secondsOf_nanos, add_mul]
  exact add_le_add d.le_size_seconds d.le_size_partSeconds

theorem grid_normalCode_le_parts (hpos : 0 < d.nanos) :
    grid normalCode ≤ size (Float.ofNat d.seconds) + size d.partSeconds := by
  refine le_of_mul_le_mul_right ?_ (show (0 : ℚ) < 1 + 1 / 2 ^ 53 by positivity)
  exact (grid_normalCode_mul_le.trans (secondsOf_strictMono.monotone hpos)).trans
    d.secondsOf_nanos_le_parts

/-- Whole seconds, the rest and their sum are rounded, each by a part of `2 ^ 53` at most. -/
theorem le_size_toSeconds :
    secondsOf d.nanos ≤ size d.toSeconds * (1 + 1 / 2 ^ 53) ^ 2 := by
  rcases Nat.eq_zero_or_pos d.nanos with hzero | hpos
  · rw [hzero, secondsOf_zero]
    exact mul_nonneg (size_nonneg _) (by positivity)
  · have hsum := d.rounded_toSeconds.le_mul d.toSeconds_lt fun _ => d.grid_normalCode_le_parts hpos
    rw [pow_two, ← mul_assoc]
    exact d.secondsOf_nanos_le_parts.trans (mul_le_mul_of_nonneg_right hsum (by positivity))

theorem parts_le_secondsOf_nanos : size (Float.ofNat d.seconds) + size d.partSeconds ≤
    secondsOf d.nanos * (1 + 1 / 2 ^ 53) := by
  rw [secondsOf_nanos, add_mul]
  refine add_le_add ?_ ?_
  · exact (rounded_ofNat d.seconds).le_mul_of_normal (Nat.cast_nonneg _) grid_normalCode_le_of_pos
  · refine d.rounded_partSeconds.le_mul_of_normal (secondsOf_nonneg _) fun hpos => ?_
    exact grid_normalCode_le_secondsOf (pos_of_secondsOf_pos hpos)

theorem size_toSeconds_le :
    size d.toSeconds ≤ secondsOf d.nanos * (1 + 1 / 2 ^ 53) ^ 2 := by
  have hparts := d.parts_le_secondsOf_nanos
  have hnonneg : 0 ≤ size (Float.ofNat d.seconds) + size d.partSeconds :=
    add_nonneg (size_nonneg _) (size_nonneg _)
  have hsum := d.rounded_toSeconds.le_mul_of_normal hnonneg fun hpos => by
    refine d.grid_normalCode_le_parts (pos_of_secondsOf_pos ?_)
    exact pos_of_mul_pos_left (hpos.trans_le hparts) (by positivity)
  rw [pow_two, ← mul_assoc]
  exact hsum.trans (mul_le_mul_of_nonneg_right hparts (by positivity))

/-- A second more makes up for the rest, which is below a second also when it is rounded. -/
theorem toSeconds_le_of_seconds_lt {d e : Span} (h : d.seconds < e.seconds) :
    code d.toSeconds ≤ code (Float.ofNat e.seconds) := by
  have hrest := d.size_partSeconds_lt
  have hd := d.rounded_toSeconds
  rcases Nat.lt_or_ge d.seconds (2 ^ 53) with hsmall | hlarge
  · obtain ⟨k, hk, hgrid⟩ := exists_grid_eq (n := d.seconds + 1) hsmall
    have hexact : size (Float.ofNat d.seconds) = d.seconds := (rounded_ofNat _).grid_eq hsmall.le
    have hle : size (Float.ofNat d.seconds) + size d.partSeconds ≤ grid k := by
      rw [hexact, hgrid, Nat.cast_add, Nat.cast_one]
      linarith
    have hnext : grid k ≤ e.seconds := by
      rw [hgrid]
      exact_mod_cast h
    exact (hd.le_of_le_grid hle (hk.trans (by decide))).trans
      ((rounded_ofNat _).le_of_grid_le hnext (hk.trans (by decide)))
  · -- From there on the next grid point is two seconds away, and the rest is rounded away.
    have hcode : (1023 + 53) * 2 ^ 52 ≤ code (Float.ofNat d.seconds) := by
      refine (rounded_ofNat _).le_of_grid_le ?_ (by decide)
      rw [grid_pow]
      exact_mod_cast hlarge
    have hbelow : size (Float.ofNat d.seconds) + size d.partSeconds <
        halfway (code (Float.ofNat d.seconds)) := by
      have hgap := two_le_gap hcode
      rw [halfway, size]
      linarith
    exact ((hd.nearest d.toSeconds_lt).le_of_lt_halfway hbelow).trans
      ((rounded_ofNat _).mono (rounded_ofNat _) (Nat.cast_le.mpr h.le))

/-- Spans in seconds keep their order. -/
theorem toSeconds_mono {d e : Span} (h : d.nanos ≤ e.nanos) :
    code d.toSeconds ≤ code e.toSeconds := by
  have hseconds : d.seconds ≤ e.seconds := Nat.div_le_div_right h
  rcases hseconds.lt_or_eq with hlt | heq
  · exact (toSeconds_le_of_seconds_lt hlt).trans
      (e.rounded_toSeconds.le_of_grid_le (le_add_of_nonneg_right (size_nonneg _))
        (e.code_ofNat_seconds_le.trans (by decide)))
  · have hsub : secondsOf d.subsecond ≤ secondsOf e.subsecond := by
      have hd : d.seconds * nanosPerSecond + d.subsecond = d.nanos := Nat.div_add_mod' ..
      have he : e.seconds * nanosPerSecond + e.subsecond = e.nanos := Nat.div_add_mod' ..
      rw [← hd, ← he, heq] at h
      exact secondsOf_strictMono.monotone (Nat.le_of_add_le_add_left h)
    have hpart := d.rounded_partSeconds.mono e.rounded_partSeconds hsub
    refine d.rounded_toSeconds.mono e.rounded_toSeconds ?_
    rw [heq]
    exact add_le_add_right (size_le_size_iff.mpr hpart) _

theorem nanos_ofNanos (n : ℕ) : (ofNanos n).nanos = min n (limit - 1) := by
  rw [ofNanos, ofNanos?]
  split
  · rename_i h
    exact (Nat.min_eq_left (Nat.le_sub_one_of_lt h)).symm
  · rename_i h
    exact (Nat.min_eq_right ((Nat.sub_le _ _).trans (Nat.not_lt.mp h))).symm

theorem nanos_between_mono (a : Instant) {t u : Instant} (h : t ≤ u) :
    (between a t).nanos ≤ (between a u).nanos := by
  rw [between, between, nanos_ofNanos, nanos_ofNanos]
  exact min_le_min_right _ (Nat.sub_le_sub_right h a)

end Span

/-! ### Limits -/

/-- Limits for a bucket of doubles: room for a token, and a rate that brings one. -/
structure Limits.Fit (l : Limits Float) : Prop where
  oneCode_le : oneCode ≤ code l.capacity
  capacity_lt : code l.capacity < infinityCode
  rate_pos : 0 < code l.rate
  rate_lt : code l.rate < infinityCode

/-- The limits that a validated configuration holds. -/
theorem RateLimit.fit {r : RateLimit} (hqps : IsPositive r.qps) (hburst : 1 ≤ r.burst) :
    r.limits.Fit := by
  obtain ⟨hpos, hlt⟩ := (isPositive_iff r.qps).mp hqps
  have hcapacity : Rounded r.burst.toNat (code r.limits.capacity) := rounded_uint32 r.burst
  have hone : grid oneCode ≤ r.burst.toNat := by
    rw [grid_oneCode]
    exact_mod_cast UInt32.le_iff_toNat_le.mp hburst
  have hmost : (r.burst.toNat : ℚ) ≤ grid ((1023 + 32) * 2 ^ 52) := by
    rw [grid_pow]
    exact_mod_cast r.burst.toNat_lt.le
  exact ⟨hcapacity.le_of_grid_le hone (by decide),
    lt_of_le_of_lt (hcapacity.le_of_le_grid hmost (by decide)) (by decide), hpos, hlt⟩

/-! ### Buckets -/

namespace Bucket

variable {l : Limits Float} {b : Bucket Float} {t u : Instant}

/-- What the time that passed brings, as computed. -/
def gain (b : Bucket Float) (l : Limits Float) (t : Instant) : Float :=
  (Span.between b.updated t).toSeconds * l.rate

/-- What a bucket holds, as computed, before it is cut off at the capacity. -/
def filled (b : Bucket Float) (l : Limits Float) (t : Instant) : Float := b.tokens + b.gain l t

theorem rounded_gain (hl : l.Fit) (b : Bucket Float) (t : Instant) :
    Rounded (size (Span.between b.updated t).toSeconds * size l.rate) (code (b.gain l t)) :=
  rounded_mul (Span.toSeconds_lt _) hl.rate_lt

theorem rounded_filled (hl : l.Fit) (hb : code b.tokens ≤ code l.capacity) (t : Instant) :
    Rounded (size b.tokens + size (b.gain l t)) (code (b.filled l t)) :=
  rounded_add (hb.trans hl.capacity_lt.le) (b.rounded_gain hl t).le_infinityCode

theorem filled_mono (hl : l.Fit) (hb : code b.tokens ≤ code l.capacity) (h : t ≤ u) :
    code (b.filled l t) ≤ code (b.filled l u) := by
  have hspan := Span.toSeconds_mono (Span.nanos_between_mono b.updated h)
  have hgain : code (b.gain l t) ≤ code (b.gain l u) :=
    (b.rounded_gain hl t).mono (b.rounded_gain hl u)
      (mul_le_mul_of_nonneg_right (size_le_size_iff.mpr hspan) (size_nonneg _))
  exact (rounded_filled hl hb t).mono (rounded_filled hl hb u)
    (add_le_add_right (size_le_size_iff.mpr hgain) _)

theorem code_refill (hl : l.Fit) (hb : code b.tokens ≤ code l.capacity) (t : Instant) :
    code (b.refill l t).tokens = min (code (b.filled l t)) (code l.capacity) :=
  code_leastDouble (rounded_filled hl hb t).le_infinityCode hl.capacity_lt.le

theorem reaches_refill_iff (hl : l.Fit) (hb : code b.tokens ≤ code l.capacity) (t : Instant) :
    TokenArithmetic.reaches (b.refill l t).tokens TokenArithmetic.one = true ↔
      oneCode ≤ code (b.filled l t) := by
  have hrefill := code_refill hl hb t
  have hone : code (1 : Float) ≤ infinityCode := by decide +kernel
  have hle : code (b.refill l t).tokens ≤ infinityCode :=
    hrefill ▸ (Nat.min_le_right _ _).trans hl.capacity_lt.le
  refine decide_eq_true_iff.trans ((le_iff hone hle).trans ?_)
  rw [code_one, hrefill, le_min_iff, and_iff_left hl.oneCode_le]

/-- An attempt takes one of the tokens if they come to one, as computed, and else leaves them. -/
theorem tryTake_cases (hl : l.Fit) (hb : code b.tokens ≤ code l.capacity) (t : Instant) :
    (oneCode ≤ code (b.filled l t) ∧
      b.tryTake l t = (true, ⟨(b.refill l t).tokens - 1, t⟩)) ∨
    (code (b.filled l t) < oneCode ∧ b.tryTake l t = (false, b.refill l t)) := by
  have hreaches := reaches_refill_iff hl hb t
  unfold tryTake
  dsimp only
  split
  · rename_i h
    exact .inl ⟨hreaches.mp h, rfl⟩
  · rename_i h
    exact .inr ⟨not_le.mp (mt hreaches.mpr h), rfl⟩

theorem granted_iff (hl : l.Fit) (hb : code b.tokens ≤ code l.capacity) (t : Instant) :
    (b.tryTake l t).1 = true ↔ oneCode ≤ code (b.filled l t) := by
  rcases tryTake_cases hl hb t with ⟨hone, htake⟩ | ⟨hbelow, htake⟩
  · rw [htake]
    exact iff_of_true rfl hone
  · rw [htake]
    exact iff_of_false Bool.false_ne_true (not_le.mpr hbelow)

/-- What is granted at some time is granted later all the more. -/
theorem granted_mono (hl : l.Fit) (hb : code b.tokens ≤ code l.capacity) (h : t ≤ u)
    (hgranted : (b.tryTake l t).1 = true) : (b.tryTake l u).1 = true :=
  (granted_iff hl hb u).mpr (((granted_iff hl hb t).mp hgranted).trans (filled_mono hl hb h))

/-- An attempt that is refused leaves what the bucket held, which is below one. -/
theorem tokens_of_refused (hl : l.Fit) (hb : code b.tokens ≤ code l.capacity)
    (hrefused : (b.tryTake l t).1 = false) :
    code (b.tryTake l t).2.tokens < oneCode := by
  rcases tryTake_cases hl hb t with ⟨-, htake⟩ | ⟨hbelow, htake⟩
  · rw [htake] at hrefused
    cases hrefused
  · rw [htake, code_refill hl hb t]
    exact lt_of_le_of_lt (Nat.min_le_left _ _) hbelow

/-- No attempt leaves a bucket with more than its capacity. -/
theorem tokens_tryTake_le (hl : l.Fit) (hb : code b.tokens ≤ code l.capacity) (t : Instant) :
    code (b.tryTake l t).2.tokens ≤ code l.capacity := by
  have hrefill := code_refill hl hb t
  have hle : code (b.refill l t).tokens ≤ code l.capacity := hrefill ▸ Nat.min_le_right _ _
  rcases tryTake_cases hl hb t with ⟨hone, htake⟩ | ⟨-, htake⟩
  · have hreached : code (1 : Float) ≤ code (b.refill l t).tokens := by
      rw [code_one, hrefill]
      exact le_min hone hl.oneCode_le
    have hsub := rounded_sub (lt_of_le_of_lt hle hl.capacity_lt) hreached
    rw [htake]
    refine le_trans (hsub.le_of_le_grid ?_ (hle.trans hl.capacity_lt.le)) hle
    exact sub_le_self _ (size_nonneg 1)
  · rw [htake]
    exact hle

/-- Whatever is asked of a bucket, it does not come to hold more than its capacity. -/
theorem tokens_after (hl : l.Fit) (hb : code b.tokens ≤ code l.capacity) (ts : List Instant) :
    code (after l b ts).tokens ≤ code l.capacity := by
  induction ts generalizing b with
  | nil => exact hb
  | cons t ts ih => exact ih (tokens_tryTake_le hl hb t)

/-- A bucket that was full at first never holds more than its capacity. -/
theorem tokens_after_le (hl : l.Fit) (start : Instant) (ts : List Instant) :
    code (after l (full l.capacity start) ts).tokens ≤ code l.capacity :=
  tokens_after hl le_rfl ts

end Bucket

end ClusterAgent
