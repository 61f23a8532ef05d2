/-
Whether a wait is long enough.

A bucket that refuses tells how long it takes until a token is there: what is missing, divided
by the rate, in the nearest nanosecond.  The nearest may be below, and then the bucket is asked
again too early.

* `Bucket.secondsMissing` — the quotient; `Bucket.waitFor_cases` — the wait is its nearest
  nanosecond, or the longest there is;
* `Bucket.granted_of_long` — a nanosecond more, and a part of `2 ^ 50`, is always enough;
* `Bucket.wait_enough` — when the wait is some time at all, when it is enough, and by how little
  it is short;
* `Bucket.short_wait` — a wait of a third of a second that is too short, and no wait after it.

Design notes: much is rounded between a token that is missing and the token that the wait
brings: what is missing, the quotient, the wait in nanoseconds, the span in seconds, the gain
and the sum.  Only the wait is rounded by more than a part of `2 ^ 53`.  What is missing and the
sum are rounded apart from the others, since one makes up for the other
(`oneCode_le_of_missing`).
-/
import ClusterAgent.Proofs.Rate.Doubles
import ClusterAgent.Proofs.Controller.Panics
import ClusterAgent.Rate.Limiter

namespace ClusterAgent

open Decimal

/-! ### The nearest nanosecond -/

namespace Decimal

theorem nearestEven_eq_zero_iff {num den : ℕ} (hden : 0 < den) :
    nearestEven num den = 0 ↔ 2 * num ≤ den := by
  obtain ⟨hlow, hhigh⟩ := nearestEven_near num den hden
  constructor
  · intro hzero
    rwa [hzero, Nat.zero_mul, Nat.mul_zero, Nat.zero_add] at hhigh
  · intro hle
    have hsmall : num / den = 0 := Nat.div_eq_of_lt (by omega)
    have hrest : num % den = num := Nat.mod_eq_of_lt (by omega)
    rw [nearestEven, hsmall, hrest]
    rcases hle.lt_or_eq with hlt | heq
    · rw [Nat.compare_eq_lt.mpr hlt]
    · rw [Nat.compare_eq_eq.mpr heq]

theorem div_le_nearestEven (num : ℕ) {den : ℕ} (hden : 0 < den) :
    (num : ℚ) / den ≤ nearestEven num den + 1 / 2 := by
  have hnear : ((2 * num : ℕ) : ℚ) ≤ (2 * (nearestEven num den * den) + den : ℕ) :=
    Nat.cast_le.mpr (nearestEven_near num den hden).2
  push_cast at hnear
  rw [div_le_iff₀ (Nat.cast_pos.mpr hden)]
  linarith

end Decimal

/-- A double that is finite and without sign goes to the nearest nanosecond. -/
theorem nanosNear?_eq {x : Float} (hx : code x < infinityCode) :
    ∃ num den : ℕ, 0 < den ∧ (num : ℚ) / den = size x * nanosPerSecond ∧
      nanosNear? x = some (nearestEven num den) := by
  have hsize := size_eq_ofFloat hx
  have hnonneg : ¬ x < 0 := by
    rw [lt_iff hx.le (by decide +kernel), code_zero]
    exact Nat.not_lt_zero _
  have hfinite : isFinite x = true := (isFinite_iff_lt hx.le).mpr hx
  unfold nanosNear?
  rw [if_neg (by simp [hnonneg, hfinite])]
  extract_lets b
  have hdiv := scaled_div (b.mantissa * nanosPerSecond) b.exponent
  have hden : 0 < (scaled (b.mantissa * nanosPerSecond) b.exponent).2 := pow_pos two_pos _
  -- The fraction is named before it is compared: it must not be worked out.
  generalize scaled (b.mantissa * nanosPerSecond) b.exponent = p at hdiv hden
  obtain ⟨num, den⟩ := p
  refine ⟨num, den, hden, ?_, rfl⟩
  rw [hdiv, hsize, Nat.cast_mul]
  exact mul_right_comm _ _ _

theorem nanosNear?_infinity {x : Float} (hx : code x = infinityCode) : nanosNear? x = none := by
  have hfinite : isFinite x = false := by
    rw [← Bool.not_eq_true, isFinite_iff_lt hx.le]
    exact hx.ge.not_gt
  unfold nanosNear?
  rw [if_pos (by simp [hfinite])]

namespace Bucket

/-! ### What is missing -/

variable {b : Bucket Float} {l : Limits Float}

/-- The seconds until a token is there, as computed. -/
def secondsMissing (b : Bucket Float) (rate : Float) : Float := mostDouble (1 - b.tokens) 0 / rate

theorem rounded_missing (hb : code b.tokens < oneCode) :
    Rounded (1 - size b.tokens) (code (1 - b.tokens)) := by
  have hsub := rounded_sub (x := 1) (y := b.tokens) (by decide +kernel) (code_one ▸ hb.le)
  rwa [size_one] at hsub

theorem missing_lt (hb : code b.tokens < oneCode) : code (1 - b.tokens) < infinityCode := by
  refine lt_of_le_of_lt ((rounded_missing hb).le_of_le_grid (n := oneCode) ?_ (by decide))
    (by decide)
  rw [grid_oneCode]
  exact sub_le_self _ (size_nonneg _)

theorem rounded_secondsMissing (hl : l.Fit) (hb : code b.tokens < oneCode) :
    Rounded (size (1 - b.tokens) / size l.rate) (code (b.secondsMissing l.rate)) := by
  have hmost : mostDouble (1 - b.tokens) 0 = 1 - b.tokens := by
    refine eq_of_code_eq ?_
    rw [code_mostDouble (missing_lt hb).le (by decide +kernel), code_zero, Nat.max_zero]
  rw [secondsMissing, hmost]
  exact rounded_div (missing_lt hb) hl.rate_pos hl.rate_lt

/-- The wait is the nearest nanosecond, or the longest there is. -/
theorem waitFor_cases (hl : l.Fit) (hb : code b.tokens < oneCode) :
    (code (b.secondsMissing l.rate) = infinityCode ∧ b.waitFor l.rate = Span.longest) ∨
    (code (b.secondsMissing l.rate) < infinityCode ∧ ∃ num den : ℕ, 0 < den ∧
      (num : ℚ) / den = size (b.secondsMissing l.rate) * nanosPerSecond ∧
      b.waitFor l.rate = Span.ofNanos (nearestEven num den)) := by
  have hwait : b.waitFor l.rate =
      ((nanosNear? (b.secondsMissing l.rate)).map Span.ofNanos).getD Span.longest :=
    b.waitFor_double l.rate
  rcases (rounded_secondsMissing hl hb).le_infinityCode.lt_or_eq with hlt | heq
  · obtain ⟨num, den, hden, hdiv, hnear⟩ := nanosNear?_eq hlt
    exact .inr ⟨hlt, num, den, hden, hdiv, by rw [hwait, hnear]; rfl⟩
  · exact .inl ⟨heq, by rw [hwait, nanosNear?_infinity heq]; rfl⟩

/-- It takes more than half a nanosecond until there is a wait at all. -/
theorem waitFor_pos_iff (hl : l.Fit) (hb : code b.tokens < oneCode) :
    0 < (b.waitFor l.rate).nanos ↔
      1 < 2 * (size (b.secondsMissing l.rate) * nanosPerSecond) := by
  rcases waitFor_cases hl hb with ⟨hinfinity, hwait⟩ | ⟨-, num, den, hden, hdiv, hwait⟩
  · rw [hwait]
    refine iff_of_true (by decide) ?_
    have hlarge : (1 : ℚ) ≤ size (b.secondsMissing l.rate) := by
      rw [size, hinfinity, ← grid_oneCode]
      exact grid_strictMono.monotone (by decide)
    norm_num [nanosPerSecond]
    linarith
  · rw [hwait, Span.nanos_ofNanos, lt_min_iff, and_iff_left (by decide), Nat.pos_iff_ne_zero, ne_eq,
      nearestEven_eq_zero_iff hden, not_le, ← hdiv, ← mul_div_assoc,
      lt_div_iff₀ (Nat.cast_pos.mpr hden), one_mul]
    norm_cast

/-- A wait that is not the longest is shorter than what is missing by half a nanosecond at most. -/
theorem secondsMissing_le (hl : l.Fit) (hb : code b.tokens < oneCode)
    (hwait : b.waitFor l.rate ≠ Span.longest) :
    code (b.secondsMissing l.rate) < infinityCode ∧
      size (b.secondsMissing l.rate) * nanosPerSecond ≤ (b.waitFor l.rate).nanos + 1 / 2 := by
  rcases waitFor_cases hl hb with ⟨-, hlongest⟩ | ⟨hlt, num, den, hden, hdiv, hnear⟩
  · exact absurd hlongest hwait
  · have hnanos : (b.waitFor l.rate).nanos = nearestEven num den := by
      have hne : (b.waitFor l.rate).nanos ≠ Span.limit - 1 := fun h => hwait (Span.ext h)
      rw [hnear, Span.nanos_ofNanos] at hne ⊢
      omega
    rw [hnanos, ← hdiv]
    exact ⟨hlt, div_le_nearestEven num hden⟩

/-! ### Longer waits -/

/-- Half a nanosecond more, and three roundings, make less than a nanosecond and a part of
`2 ^ 50` more. -/
theorem half_more_le {w n : ℕ} (h : w + w / 2 ^ 50 < n) :
    ((w : ℚ) + 1 / 2) * (1 + 1 / 2 ^ 53) ^ 3 ≤ n := by
  have hparts : (w : ℚ) + 1 ≤ ((w / 2 ^ 50 : ℕ) + 1) * 2 ^ 50 := by
    have hlt : w + 1 ≤ (w / 2 ^ 50 + 1) * 2 ^ 50 := by omega
    exact_mod_cast hlt
  have hn : (w : ℚ) + (w / 2 ^ 50 : ℕ) + 1 ≤ n := by exact_mod_cast h
  have hcube : (1 + 1 / 2 ^ 53 : ℚ) ^ 3 ≤ 1 + 1 / 2 ^ 51 := by norm_num
  have hk : (0 : ℚ) ≤ (w / 2 ^ 50 : ℕ) := Nat.cast_nonneg _
  calc ((w : ℚ) + 1 / 2) * (1 + 1 / 2 ^ 53) ^ 3
      ≤ (w + 1 / 2) * (1 + 1 / 2 ^ 51) := mul_le_mul_of_nonneg_left hcube (by positivity)
    _ ≤ n := by linarith

/-- Such a span is as long in seconds, as computed, as the quotient that the wait stands for. -/
theorem quotient_le_toSeconds {v : ℚ} {q w : ℕ} {d : Span} (hv : Rounded v q)
    (hq : q < infinityCode) (hw : grid q * nanosPerSecond ≤ w + 1 / 2)
    (hd : w + w / 2 ^ 50 < d.nanos) : v ≤ size d.toSeconds := by
  have hsecond : (0 : ℚ) < nanosPerSecond := by norm_num [nanosPerSecond]
  have hfactor : (0 : ℚ) < (1 + 1 / 2 ^ 53) ^ 2 * nanosPerSecond :=
    mul_pos (by positivity) hsecond
  have hspan : (d.nanos : ℚ) ≤ size d.toSeconds * (1 + 1 / 2 ^ 53) ^ 2 * nanosPerSecond :=
    (div_le_iff₀ hsecond).mp d.le_size_toSeconds
  have hlong := half_more_le hd
  rcases lt_or_ge (grid normalCode) v with hnormal | hsmall
  · have hquotient : v ≤ grid q * (1 + 1 / 2 ^ 53) := hv.le_mul hq fun _ => hnormal.le
    refine le_of_mul_le_mul_right ?_ hfactor
    calc v * ((1 + 1 / 2 ^ 53) ^ 2 * nanosPerSecond)
        ≤ grid q * (1 + 1 / 2 ^ 53) * ((1 + 1 / 2 ^ 53) ^ 2 * nanosPerSecond) :=
          mul_le_mul_of_nonneg_right hquotient hfactor.le
      _ = grid q * nanosPerSecond * (1 + 1 / 2 ^ 53) ^ 3 := by ring
      _ ≤ (w + 1 / 2) * (1 + 1 / 2 ^ 53) ^ 3 := mul_le_mul_of_nonneg_right hw (by positivity)
      _ ≤ d.nanos := hlong
      _ ≤ size d.toSeconds * ((1 + 1 / 2 ^ 53) ^ 2 * nanosPerSecond) := by rwa [← mul_assoc]
  · -- A quotient below the normal ones is less than a nanosecond.
    have hone : (1 : ℚ) ≤ d.nanos := by exact_mod_cast Nat.one_le_of_lt hd
    have hnormal := grid_normalCode_le
    norm_num [nanosPerSecond] at hspan hnormal ⊢
    linarith

/-- What is missing is there after a span that is a nanosecond and a part of `2 ^ 50` longer
than the wait. -/
theorem granted_of_long (hl : l.Fit) (hb : code b.tokens < oneCode)
    (hwait : b.waitFor l.rate ≠ Span.longest) {t : Instant}
    (ht : (b.waitFor l.rate).nanos + (b.waitFor l.rate).nanos / 2 ^ 50 <
      (Span.between b.updated t).nanos) :
    (b.tryTake l t).1 = true := by
  obtain ⟨hfinite, hnear⟩ := secondsMissing_le hl hb hwait
  have hrate : 0 < size l.rate := by
    rw [size, ← grid_zero]
    exact grid_strictMono hl.rate_pos
  have hspan := quotient_le_toSeconds (rounded_secondsMissing hl hb) hfinite hnear ht
  rw [div_le_iff₀ hrate] at hspan
  -- What is missing is a double, so the gain is not rounded to below it.
  have hgain : code (1 - b.tokens) ≤ code (b.gain l t) :=
    (b.rounded_gain hl t).le_of_grid_le hspan (missing_lt hb).le
  have hcapacity : code b.tokens ≤ code l.capacity := hb.le.trans hl.oneCode_le
  rw [granted_iff hl hcapacity]
  have hfilled := rounded_filled hl hcapacity t
  rcases hfilled.le_infinityCode.lt_or_eq with hlt | heq
  · exact oneCode_le_of_missing ((rounded_missing hb).nearest (missing_lt hb)) hgain
      (hfilled.nearest hlt)
  · -- A bucket with infinitely many tokens has one.
    rw [heq]
    decide

/-- A wait is enough exactly when it is just at its end, since a bucket never loses by waiting. -/
theorem granted_from_iff (hl : l.Fit) (hb : code b.tokens < oneCode) (w : Span) :
    (∀ t, b.updated + w.nanos ≤ t → (b.tryTake l t).1 = true) ↔
      1 ≤ b.tokens + w.toSeconds * l.rate := by
  have hcapacity : code b.tokens ≤ code l.capacity := hb.le.trans hl.oneCode_le
  have hspan : Span.between b.updated (b.updated + w.nanos) = w := by
    have hnanos : b.updated + w.nanos - b.updated = w.nanos := Nat.add_sub_cancel_left ..
    refine Span.ext ?_
    rw [Span.nanos_between (by rw [hnanos]; exact w.lt_limit), hnanos]
  have hend : (b.tryTake l (b.updated + w.nanos)).1 = true ↔
      1 ≤ b.tokens + w.toSeconds * l.rate := by
    have hfilled := (rounded_filled hl hcapacity (b.updated + w.nanos)).le_infinityCode
    rw [granted_iff hl hcapacity, ← code_one, ← le_iff (by decide +kernel) hfilled, filled, gain,
      hspan]
  exact ⟨fun h => hend.mp (h _ le_rfl), fun h t ht => granted_mono hl hcapacity ht (hend.mpr h)⟩

/-- A timer that runs off later than the wait, were it by a nanosecond, runs off late enough. -/
theorem granted_at_timer (hl : l.Fit) (hb : code b.tokens < oneCode)
    (ms : ℕ) (hwait : b.waitFor l.rate ≠ Span.longest)
    (hms : Clock.runsOffAt b.updated (b.waitFor l.rate) = some ms)
    (hne : Clock.instantOf ms ≠ b.updated + (b.waitFor l.rate).nanos)
    (hsmall : (b.waitFor l.rate).nanos < 2 ^ 50) :
    (b.tryTake l (Clock.instantOf ms)).1 = true := by
  rw [Clock.runsOffAt, if_neg hwait] at hms
  obtain rfl := Option.some.inj hms
  have hlater : b.updated + ((b.waitFor l.rate).nanos + 1) ≤
      Clock.instantOf (Clock.milliAt (b.updated + (b.waitFor l.rate).nanos)) :=
    lt_of_le_of_ne (Clock.le_milliAt _) hne.symm
  have hspan := Span.nanos_between_mono b.updated hlater
  have hnanos : b.updated + ((b.waitFor l.rate).nanos + 1) - b.updated =
      (b.waitFor l.rate).nanos + 1 := Nat.add_sub_cancel_left ..
  have hshort : (b.waitFor l.rate).nanos + 1 < Span.limit :=
    lt_of_le_of_lt (Nat.succ_le_of_lt hsmall) (by decide)
  rw [Span.nanos_between (lt_of_eq_of_lt hnanos hshort), hnanos] at hspan
  refine granted_of_long hl hb hwait (lt_of_lt_of_le ?_ hspan)
  rw [Nat.div_eq_of_lt hsmall]
  exact Nat.lt_succ_self _

end Bucket

/-- One who is refused, and tries again, asks the bucket as the refusal left it. -/
theorem Limiter.retry_acquire {α : Type} [TokenArithmetic α] {l : Limiter α} {now : Instant}
    (h : (l.bucket.tryTake l.limits now).1 = false) (id : RequestId) (t : Instant) :
    ((l.acquire id now).2.1.retry id t).1 =
      ((l.bucket.tryTake l.limits now).2.tryTake l.limits t).1 := by
  unfold acquire tryAcquire
  dsimp only
  rw [h, if_neg Bool.false_ne_true]
  unfold retry tryAcquire
  dsimp only
  split
  · rename_i hgot
    exact hgot.symm
  · rename_i hgot
    exact (Bool.not_eq_true _ ▸ hgot).symm

namespace Bucket

/-- **A wait falls short by next to nothing.** A bucket that refuses, under validated limits,
tells a wait.  There is no wait when it takes half a nanosecond at most until a token is there.
A wait that is not the longest is enough exactly when the tokens, as computed, come to one just
at its end; a nanosecond more, and a part of `2 ^ 50`, is always enough.  So one who waits
alone gets a token when the timer runs off, if that is later than the wait by anything at all. -/
theorem wait_enough (r : RateLimit) (hqps : IsPositive r.qps) (hburst : 1 ≤ r.burst)
    (start : Instant) (ts : List Instant) (now : Instant)
    (hrefused :
      ((after r.limits (full r.limits.capacity start) ts).tryTake r.limits now).1 = false) :
    let before := after r.limits (full r.limits.capacity start) ts
    let b := (before.tryTake r.limits now).2
    let w := b.waitFor r.qps
    (0 < w.nanos ↔ 1 < 2 * (size (b.secondsMissing r.qps) * nanosPerSecond)) ∧
    (w ≠ Span.longest →
      ((∀ t, now + w.nanos ≤ t → (b.tryTake r.limits t).1 = true) ↔
        1 ≤ b.tokens + w.toSeconds * r.qps) ∧
      (∀ t, w.nanos + w.nanos / 2 ^ 50 < (Span.between now t).nanos →
        (b.tryTake r.limits t).1 = true) ∧
      ∀ (l : Limiter Float) (id : RequestId) (ms : ℕ), l.limits = r.limits → l.bucket = before →
        Clock.runsOffAt now w = some ms → Clock.instantOf ms ≠ now + w.nanos → w.nanos < 2 ^ 50 →
        ((l.acquire id now).2.1.retry id (Clock.instantOf ms)).1 = true) := by
  intro before b w
  have hl : r.limits.Fit := RateLimit.fit hqps hburst
  have hrate : r.limits.rate = r.qps := rfl
  have hb : code b.tokens < oneCode :=
    tokens_of_refused hl (tokens_after_le hl start ts) hrefused
  have hnow : b.updated = now := tryTake_updated before r.limits now
  have hpos := waitFor_pos_iff hl hb
  rw [hrate] at hpos
  refine ⟨hpos, fun hw => ⟨?_, fun t ht => ?_, fun l id ms hlimits hbucket hms hne hsmall => ?_⟩⟩
  · have hiff := granted_from_iff hl hb w
    rwa [hnow, hrate] at hiff
  · have hgranted := granted_of_long (t := t) hl hb
    rw [hrate, hnow] at hgranted
    exact hgranted hw ht
  · have hrefused' : (l.bucket.tryTake l.limits now).1 = false := by
      rw [hbucket, hlimits]
      exact hrefused
    have hgranted := granted_at_timer hl hb ms
    rw [hrate, hnow] at hgranted
    rw [Limiter.retry_acquire hrefused', hbucket, hlimits]
    exact hgranted hw hms hne hsmall

/-- Three tokens a second, and room for one. -/
def threeASecond : RateLimit := ⟨3, 1⟩

/-- A bucket whose token is taken, and that is asked again at once. -/
def askedTwice : Bucket Float :=
  after threeASecond.limits (full threeASecond.limits.capacity 0) [0, 0]

/-- A third of a second, rounded up, is enough: the timer of one who waits alone runs off at
334 milliseconds. -/
theorem enough_after_third :
    (askedTwice.waitFor threeASecond.qps).nanos = 333333333 ∧
    (askedTwice.tryTake threeASecond.limits 333333334).1 = true ∧
    (askedTwice.tryTake threeASecond.limits (Clock.instantOf 334)).1 = true := by
  have hnanos : (askedTwice.waitFor threeASecond.qps).nanos = 333333333 := by decide +kernel
  have hfinite : askedTwice.waitFor threeASecond.qps ≠ Span.longest := by decide +kernel
  have hwait := wait_enough threeASecond (by decide +kernel) (by decide) 0 [0] 0 (by decide +kernel)
  have hlong := (hwait.2 hfinite).2.1
  have hlater (t : Instant) (ht : 333333333 < (Span.between 0 t).nanos) :
      (askedTwice.tryTake threeASecond.limits t).1 = true :=
    hlong t (by rw [← hnanos] at ht; exact lt_of_eq_of_lt (by decide +kernel) ht)
  exact ⟨hnanos, hlater 333333334 (by decide), hlater (Clock.instantOf 334) (by decide)⟩

/-- Rounded down it is not: the bucket refuses once more, and then there is no wait at all. -/
theorem short_wait :
    IsPositive threeASecond.qps ∧ 1 ≤ threeASecond.burst ∧
    answers threeASecond.limits (full threeASecond.limits.capacity 0) [0, 0] = [true, false] ∧
    askedTwice.waitFor threeASecond.qps ≠ Span.longest ∧
    (askedTwice.waitFor threeASecond.qps).nanos = 333333333 ∧
    (askedTwice.tryTake threeASecond.limits 333333333).1 = false ∧
    ((askedTwice.tryTake threeASecond.limits 333333333).2.waitFor threeASecond.qps).nanos = 0 := by
  decide +kernel

end Bucket

end ClusterAgent
