/-
How far a bucket of doubles drifts from what it would hold exactly.

A refused attempt puts the gain so far into the tokens, so the next one adds two rounded gains
where there would have been one.  What a bucket promises for an instant, its tokens and the
exact gain until then, is the measure of that: without rounding no refused attempt would change
it.

* `Bucket.promised` — tokens and gain, neither rounded nor cut off;
* `Bucket.abs_filled_sub_le` — what the bucket is filled to, as computed, lies close to it;
* `Bucket.promised_refused` — a refused attempt changes it by a part of `2 ^ 50` at most,
  `Bucket.promised_polls` — several of them by as many;
* `Bucket.granted_of_promised`, `Bucket.promised_of_granted` — it decides attempts, except
  within a part of `2 ^ 50` of one token;
* `Bucket.granted_after_polls` — so polls delay a token by next to nothing.

Design notes: the seconds are rounded three times, the gain and the sum once each, and every
time by a part of `2 ^ 53`.  A gain may be too small to be normal, which costs a unit of the
grid; that is far below everything else.
-/
import ClusterAgent.Proofs.Rate.Doubles

namespace ClusterAgent

open Decimal

namespace Decimal

theorem unit_le : 1 / scale ≤ 1 / 2 ^ 102 :=
  one_div_le_one_div_of_le (by positivity) (pow_le_pow_right₀ one_le_two (by decide))

theorem unit_pos : 0 < 1 / scale := one_div_pos.mpr scale_pos

end Decimal

namespace Bucket

variable {l : Limits Float} {b : Bucket Float} {s t u : Instant} {ps : List Instant}

/-- The gain until an instant, without rounding. -/
def exactGain (b : Bucket Float) (l : Limits Float) (t : Instant) : ℚ :=
  secondsOf (Span.between b.updated t).nanos * size l.rate

/-- What a bucket would hold at an instant, if nothing were rounded and nothing cut off. -/
def promised (b : Bucket Float) (l : Limits Float) (t : Instant) : ℚ :=
  size b.tokens + b.exactGain l t

theorem exactGain_nonneg (b : Bucket Float) (l : Limits Float) (t : Instant) :
    0 ≤ b.exactGain l t := mul_nonneg (secondsOf_nonneg _) (size_nonneg _)

/-! ### Rounding -/

/-- What is rounded to the gain, the seconds and the rate, lies close to the exact gain. -/
theorem le_mul_rate (b : Bucket Float) (l : Limits Float) (t : Instant) :
    b.exactGain l t ≤
      size (Span.between b.updated t).toSeconds * size l.rate * (1 + 1 / 2 ^ 53) ^ 2 := by
  rw [mul_right_comm]
  exact mul_le_mul_of_nonneg_right (Span.le_size_toSeconds _) (size_nonneg _)

theorem mul_rate_le (b : Bucket Float) (l : Limits Float) (t : Instant) :
    size (Span.between b.updated t).toSeconds * size l.rate ≤
      b.exactGain l t * (1 + 1 / 2 ^ 53) ^ 2 := by
  rw [exactGain, mul_right_comm]
  exact mul_le_mul_of_nonneg_right (Span.size_toSeconds_le _) (size_nonneg _)

theorem abs_gain_sub_le (hl : l.Fit) (hgain : code (b.gain l t) < infinityCode) :
    |size (b.gain l t) - b.exactGain l t| ≤ b.exactGain l t * (4 / 2 ^ 53) + 1 / scale := by
  have hexact := b.exactGain_nonneg l t
  have hlow := b.le_mul_rate l t
  have hhigh := b.mul_rate_le l t
  have hnonneg : 0 ≤ size (Span.between b.updated t).toSeconds * size l.rate :=
    mul_nonneg (size_nonneg _) (size_nonneg _)
  have hround := ((b.rounded_gain hl t).nearest hgain).abs_sub_le hnonneg
  rw [← size] at hround
  generalize size (Span.between b.updated t).toSeconds * size l.rate = v at *
  rw [abs_le] at hround ⊢
  constructor <;> norm_num at * <;> linarith

/-- What the bucket is filled to lies close to what it promises. -/
theorem abs_filled_sub_le (hl : l.Fit) (hb : code b.tokens ≤ code l.capacity)
    (hgain : code (b.gain l t) < infinityCode) (hfilled : code (b.filled l t) < infinityCode) :
    |size (b.filled l t) - b.promised l t| ≤ b.promised l t * (6 / 2 ^ 53) + 3 * (1 / scale) := by
  have hunit := unit_pos
  have hexact := b.exactGain_nonneg l t
  have htokens := size_nonneg b.tokens
  have hsum := ((rounded_filled hl hb t).nearest hfilled).abs_sub_le
    (add_nonneg htokens (size_nonneg _))
  have hrest := abs_gain_sub_le hl hgain
  rw [← size] at hsum
  rw [promised]
  generalize 1 / scale = unit at *
  rw [abs_le] at hsum hrest ⊢
  constructor <;> norm_num at * <;> linarith

/-- Nothing is infinite as long as little is promised. -/
theorem finite_of_promised_le (hl : l.Fit) (hb : code b.tokens ≤ code l.capacity)
    (h : b.promised l t ≤ 2 ^ 60) :
    code (b.gain l t) < infinityCode ∧ code (b.filled l t) < infinityCode := by
  have hexact := b.exactGain_nonneg l t
  have htokens := size_nonneg b.tokens
  have hhigh := b.mul_rate_le l t
  rw [promised] at h
  -- Powers of two are on the grid, so what lies below one is not rounded above it.
  have hgain : code (b.gain l t) ≤ (1023 + 61) * 2 ^ 52 := by
    refine (b.rounded_gain hl t).le_of_le_grid ?_ (by decide)
    rw [grid_pow]
    norm_num at *
    linarith
  have hsize : size (b.gain l t) ≤ 2 ^ 61 := by
    rw [← grid_pow]
    exact grid_strictMono.monotone hgain
  have hfilled : code (b.filled l t) ≤ (1023 + 62) * 2 ^ 52 := by
    refine (rounded_filled hl hb t).le_of_le_grid ?_ (by decide)
    rw [grid_pow]
    linarith
  exact ⟨lt_of_le_of_lt hgain (by decide), lt_of_le_of_lt hfilled (by decide)⟩

theorem gain_le_filled (hl : l.Fit) (hb : code b.tokens ≤ code l.capacity) (t : Instant) :
    code (b.gain l t) ≤ code (b.filled l t) :=
  (rounded_filled hl hb t).le_of_grid_le (le_add_of_nonneg_left (size_nonneg _))
    (b.rounded_gain hl t).le_infinityCode

/-- A bucket that promises twice a size is filled to that size. -/
theorem le_filled_of_promised {k : ℕ} (hl : l.Fit) (hb : code b.tokens ≤ code l.capacity)
    (hone : oneCode ≤ k) (hk : k ≤ infinityCode) (h : 2 * grid k ≤ b.promised l t) :
    k ≤ code (b.filled l t) := by
  -- An infinite gain fills any bucket; a finite one is close to the exact gain.
  rcases (b.rounded_gain hl t).le_infinityCode.lt_or_eq with hgain | hgain
  · refine (rounded_filled hl hb t).le_of_grid_le ?_ hk
    have hgrid : 1 ≤ grid k := grid_oneCode ▸ grid_strictMono.monotone hone
    have hclose := (abs_le.mp (abs_gain_sub_le hl hgain)).1
    have hunit := unit_le
    have htokens := size_nonneg b.tokens
    rw [promised] at h
    generalize 1 / scale = unit at *
    norm_num at *
    linarith
  · exact hk.trans (hgain.symm.le.trans (gain_le_filled hl hb t))

/-! ### Near one token -/

/-- Below one token, what the bucket is filled to lies within `2 ^ -50` of what it promises. -/
theorem abs_filled_sub_le_of_lt_one (hl : l.Fit) (hb : code b.tokens ≤ code l.capacity)
    (h : code (b.filled l t) < oneCode) :
    |size (b.filled l t) - b.promised l t| ≤ 1 / 2 ^ 50 := by
  have hfinite : code (b.filled l t) < infinityCode := h.trans (by decide)
  have hclose := abs_filled_sub_le hl hb ((gain_le_filled hl hb t).trans_lt hfinite) hfinite
  have hone : size (b.filled l t) < 1 := size_lt_one_iff.mpr h
  have hunit := unit_le
  rw [abs_le] at hclose ⊢
  generalize 1 / scale = unit at *
  constructor <;> norm_num at * <;> linarith

theorem granted_of_promised (hl : l.Fit) (hb : code b.tokens ≤ code l.capacity)
    (h : 1 + 1 / 2 ^ 50 ≤ b.promised l t) : (b.tryTake l t).1 = true := by
  rw [granted_iff hl hb]
  -- Below one token the bucket would be close to what it promises.
  by_contra hbelow
  rw [not_le] at hbelow
  have hclose := (abs_le.mp (abs_filled_sub_le_of_lt_one hl hb hbelow)).1
  have hone : size (b.filled l t) < 1 := size_lt_one_iff.mpr hbelow
  linarith

theorem promised_of_granted (hl : l.Fit) (hb : code b.tokens ≤ code l.capacity)
    (h : (b.tryTake l t).1 = true) : 1 - 1 / 2 ^ 50 ≤ b.promised l t := by
  by_contra hbelow
  rw [not_le] at hbelow
  obtain ⟨hgain, hfilled⟩ := finite_of_promised_le hl hb (t := t) (by norm_num at *; linarith)
  have hclose := (abs_le.mp (abs_filled_sub_le hl hb hgain hfilled)).2
  have hone : 1 ≤ size (b.filled l t) := one_le_size_iff.mpr ((granted_iff hl hb t).mp h)
  have hunit := unit_le
  generalize 1 / scale = unit at *
  norm_num at *
  linarith

/-! ### Refused attempts -/

/-- What is promised for a later instant grows by the exact gain. -/
theorem promised_later (hs : b.updated ≤ s) (hst : s ≤ t) (ht : t - b.updated < Span.limit) :
    b.promised l t = b.promised l s + secondsOf (t - s) * size l.rate := by
  have hfirst : s - b.updated < Span.limit := lt_of_le_of_lt (Nat.sub_le_sub_right hst _) ht
  rw [promised, promised, exactGain, exactGain, Span.nanos_between ht, Span.nanos_between hfirst,
    secondsOf_sub hs hst]
  ring

/-- A refused attempt leaves what the bucket was filled to. -/
theorem code_tokens_refused (hl : l.Fit) (hb : code b.tokens ≤ code l.capacity)
    (h : (b.tryTake l s).1 = false) :
    code (b.filled l s) < oneCode ∧ code (b.tryTake l s).2.tokens = code (b.filled l s) := by
  rcases tryTake_cases hl hb s with ⟨-, htake⟩ | ⟨hbelow, htake⟩
  · rw [htake] at h
    cases h
  · rw [htake]
    exact ⟨hbelow, (code_refill hl hb s).trans (Nat.min_eq_left (hbelow.le.trans hl.oneCode_le))⟩

/-- A refused attempt hardly changes what is promised for later. -/
theorem promised_refused (hl : l.Fit) (hb : code b.tokens ≤ code l.capacity)
    (hs : b.updated ≤ s) (hst : s ≤ t) (ht : t - b.updated < Span.limit)
    (h : (b.tryTake l s).1 = false) :
    |(b.tryTake l s).2.promised l t - b.promised l t| ≤ 1 / 2 ^ 50 := by
  obtain ⟨hbelow, hcode⟩ := code_tokens_refused hl hb h
  have hrest : t - s < Span.limit := lt_of_le_of_lt (Nat.sub_le_sub_left hs _) ht
  have hleft : (b.tryTake l s).2.promised l t =
      size (b.filled l s) + secondsOf (t - s) * size l.rate := by
    rw [promised, exactGain, tryTake_updated, Span.nanos_between hrest, size, hcode, ← size]
  rw [hleft, promised_later hs hst ht, add_sub_add_right_eq_sub]
  exact abs_filled_sub_le_of_lt_one hl hb hbelow

/-- Refused attempts in turn change what is promised for later by as many parts. -/
theorem promised_polls (hl : l.Fit) (hb : code b.tokens ≤ code l.capacity)
    (h : Clock.Forward b.updated (ps ++ [t])) (hrefused : ∀ a ∈ answers l b ps, a = false) :
    |(after l b ps).promised l t - b.promised l t| ≤ ps.length / 2 ^ 50 := by
  induction ps generalizing b with
  | nil => simp [after]
  | cons p ps ih =>
    obtain ⟨hfirst, hrest⟩ := List.forall_mem_cons.mp hrefused
    have htail : Clock.Forward (b.tryTake l p).2.updated (ps ++ [t]) := by
      rw [tryTake_updated]
      exact h.tail
    have hpt : p ≤ t := (List.pairwise_cons.mp h.tail.ordered).1 t (by simp)
    -- The first poll makes one part, the others their parts of what is promised after it.
    have hone := promised_refused hl hb h.le_head hpt (h.near t (by simp)) hfirst
    have hmore := ih (tokens_tryTake_le hl hb p) htail hrest
    have hboth := abs_sub_le ((after l (b.tryTake l p).2 ps).promised l t)
      ((b.tryTake l p).2.promised l t) (b.promised l t)
    rw [List.length_cons, Nat.cast_succ, add_div]
    exact hboth.trans (add_le_add hmore hone)

/-- **Polls hardly delay a token.**  What a bucket would grant at an instant, it grants after
refused attempts as soon as the rate has made up for them: a part of `2 ^ 50` for each, and two
more. -/
theorem granted_after_polls (hl : l.Fit) (hb : code b.tokens ≤ code l.capacity)
    (h : Clock.Forward b.updated (ps ++ [u])) (ht : b.updated ≤ t) (htu : t ≤ u)
    (hrefused : ∀ a ∈ answers l b ps, a = false) (hgranted : (b.tryTake l t).1 = true)
    (hlater : ((ps.length : ℚ) + 2) / 2 ^ 50 ≤ secondsOf (u - t) * size l.rate) :
    ((after l b ps).tryTake l u).1 = true := by
  have hdrift := (abs_le.mp (promised_polls hl hb h hrefused)).1
  have hpromised := promised_of_granted hl hb hgranted
  have hgrown := promised_later (l := l) ht htu (h.near u (by simp))
  refine granted_of_promised hl (tokens_after hl hb ps) ?_
  linarith

end Bucket

end ClusterAgent
