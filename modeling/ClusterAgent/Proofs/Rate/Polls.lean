/-
What a refused attempt changes.

An attempt that is refused takes nothing, but it leaves the bucket refilled.  In fractions the
bucket then goes on as if nothing had been asked.  In doubles one gain has become two, and each
is rounded, so a later attempt may be answered otherwise if it finds the bucket within a hair of
one token.

* `Bucket.answers_of_refused` — in fractions a refused attempt changes no later answer,
  `Bucket.Counts.answers_of_refused` — nor does it in doubles at the instant of another;
* `Bucket.Near`, `Bucket.Alike` — buckets of doubles that hold almost the same, and amounts that
  fill them almost alike, `Bucket.Near.alike`, `Bucket.Alike.near`;
* `Bucket.ClearOfOne` — no attempt in turn finds the bucket within a margin of one token;
* `Bucket.answers_of_refused_clear` — then a refused attempt before them changes none of them;
* `Bucket.refusals_leave_little` — all of it, for the limits of a configuration;
* `Bucket.token_lost_to_a_poll` — and a token that is late because of a poll.

Design notes: two runs are compared, one with the refused attempt and one without.  After the
next attempt they differ in nothing but their tokens, by a part of the capacity, and each attempt
adds a little to that part.  Rounding never decides anything else than on which side of one token
an amount lies.
-/
import ClusterAgent.Proofs.Rate.Drift
import ClusterAgent.Proofs.Rate.Range

namespace ClusterAgent

open Decimal

/-! ### Attempts in the order of the clock -/

namespace Bucket

section

variable {α : Type} [TokenArithmetic α] {l : Limits α} {b : Bucket α} {pre post : List Instant}

/-- Once attempts are made, those that follow are in order from the last one on. -/
theorem forward_after (h : Clock.Forward b.updated (pre ++ post)) :
    Clock.Forward (after l b pre).updated post := by
  induction pre generalizing b with
  | nil => exact h
  | cons t pre ih =>
    refine ih (b := (b.tryTake l t).2) ?_
    rw [tryTake_updated]
    exact h.tail

/-- An attempt that changes no later answer can be left out of a run. -/
theorem answers_eraseIdx {s : Instant}
    (h : answers l ((after l b pre).tryTake l s).2 post = answers l (after l b pre) post) :
    answers l b (pre ++ post) = (answers l b (pre ++ s :: post)).eraseIdx pre.length := by
  rw [answers_append, answers_append, answers, h,
    List.eraseIdx_append_of_length_le (length_answers l b pre).le, length_answers, Nat.sub_self,
    List.eraseIdx_cons_zero]

/-- A refused attempt changes nothing at all if it is made at the instant of the one before it or
of the one after it. -/
theorem Counts.answers_of_refused {worth : α → ℚ} (h : Counts l worth) (hb : Within l worth b)
    {s : Instant} (hrefused : (b.tryTake l s).1 = false)
    (hs : s = b.updated ∨ post.head? = some s) :
    answers l (b.tryTake l s).2 post = answers l b post := by
  have hafter : (b.tryTake l s).2 = b.refill l s := by
    rcases h.tryTake_cases hb s with ⟨-, htake⟩ | ⟨-, htake⟩
    · rw [htake] at hrefused
      cases hrefused
    · rw [htake]
  rw [hafter]
  rcases hs with rfl | hnext
  · exact congrArg (answers l · post) (h.refill_self b.tokens b.updated hb)
  · obtain ⟨rest, rfl⟩ := List.head?_eq_some_iff.mp hnext
    rw [answers, answers, h.tryTake_refill hb]

end

/-! ### Fractions -/

/-- In fractions, a refused attempt changes no later answer. -/
theorem answers_of_refused {l : Limits ℚ} {b : Bucket ℚ} {s : Instant} {ts : List Instant}
    (hr : 0 ≤ l.rate) (h : Clock.Forward b.updated (s :: ts))
    (hrefused : (b.tryTake l s).1 = false) :
    answers l (b.tryTake l s).2 ts = answers l b ts := by
  rcases ts with _ | ⟨t, ts⟩
  · rfl
  have hst : s ≤ t := h.tail.le_head
  have hnear : t - b.updated < Span.limit := h.near t (by simp)
  have hrest : t - s < Span.limit := h.tail.near t (by simp)
  have hlevel : (b.tryTake l s).2.level l t = b.level l t := by
    rw [level_tryTake, hrefused, level_of_le hr h.le_head hst hnear, Span.nanos_between hrest]
    simp
  -- The bucket is refilled alike, so the attempt does the same.
  have hrefill : (b.tryTake l s).2.refill l t = b.refill l t := congrArg (Bucket.mk · t) hlevel
  have htake : (b.tryTake l s).2.tryTake l t = b.tryTake l t := by
    unfold tryTake at hrefill ⊢
    rw [hrefill]
  rw [answers, answers, htake]

/-! ### Doubles -/

variable {l : Limits Float} {b b' : Bucket Float} {d : ℚ} {s t : Instant} {ts : List Instant}

/-- Amounts that both fill a bucket, or lie close together. -/
def Alike (l : Limits Float) (d : ℚ) (x y : Float) : Prop :=
  (code l.capacity ≤ code x ∧ code l.capacity ≤ code y) ∨ |size x - size y| ≤ d

/-- Buckets that were refilled together and hold almost the same. -/
structure Near (l : Limits Float) (d : ℚ) (b b' : Bucket Float) : Prop where
  updated_eq : b.updated = b'.updated
  tokens_le : code b.tokens ≤ code l.capacity
  tokens_le' : code b'.tokens ≤ code l.capacity
  close : |size b.tokens - size b'.tokens| ≤ d

/-- Away from one token, amounts that are alike lie on the same side of it. -/
theorem Alike.oneCode_le_iff {x y : Float} (h : Alike l d x y) (hl : l.Fit)
    (hclear : d < |size x - 1|) : oneCode ≤ code x ↔ oneCode ≤ code y := by
  rcases h with ⟨hx, hy⟩ | hclose
  · exact iff_of_true (hl.oneCode_le.trans hx) (hl.oneCode_le.trans hy)
  · obtain ⟨hlow, hhigh⟩ := abs_le.mp hclose
    rw [← one_le_size_iff, ← one_le_size_iff]
    rcases lt_abs.mp hclear with habove | hbelow
    · exact iff_of_true (by linarith [(abs_nonneg _).trans hclose])
        (by linarith)
    · exact iff_of_false (by linarith [(abs_nonneg _).trans hclose]) (by linarith)

/-- The tokens after an attempt, in sizes. -/
theorem size_tryTake (hl : l.Fit) (hcapacity : code l.capacity < (1023 + 53) * 2 ^ 52)
    (hb : code b.tokens ≤ code l.capacity) (t : Instant) :
    size (b.tryTake l t).2.tokens =
      min (size (b.filled l t)) (size l.capacity) - if (b.tryTake l t).1 then 1 else 0 := by
  have hrefill := code_refill hl hb t
  have hsize : size (b.refill l t).tokens = min (size (b.filled l t)) (size l.capacity) := by
    rw [size, hrefill, grid_strictMono.monotone.map_min]
    rfl
  rcases tryTake_cases hl hb t with ⟨hone, htake⟩ | ⟨-, htake⟩
  · rw [htake, ← hsize]
    refine size_sub_one ?_ ?_
    · rw [hrefill]
      exact le_min hone hl.oneCode_le
    · rw [hrefill]
      exact (Nat.min_le_right _ _).trans_lt hcapacity
  · rw [htake, ← hsize]
    exact (sub_zero _).symm

/-- Buckets that are filled alike answer alike, and are near each other afterwards. -/
theorem Alike.near (h : Alike l d (b.filled l t) (b'.filled l t)) (hl : l.Fit)
    (hcapacity : code l.capacity < (1023 + 53) * 2 ^ 52) (hb : code b.tokens ≤ code l.capacity)
    (hb' : code b'.tokens ≤ code l.capacity) (hd : 0 ≤ d)
    (hclear : d < |size (b.filled l t) - 1|) :
    (b.tryTake l t).1 = (b'.tryTake l t).1 ∧
      Near l d (b.tryTake l t).2 (b'.tryTake l t).2 := by
  have hsame : (b.tryTake l t).1 = (b'.tryTake l t).1 := by
    rw [Bool.eq_iff_iff, granted_iff hl hb, granted_iff hl hb']
    exact h.oneCode_le_iff hl hclear
  refine ⟨hsame, ?_, tokens_tryTake_le hl hb t, tokens_tryTake_le hl hb' t, ?_⟩
  · rw [tryTake_updated, tryTake_updated]
  · rw [size_tryTake hl hcapacity hb, size_tryTake hl hcapacity hb', hsame,
      sub_sub_sub_cancel_right]
    -- Full buckets hold the same, and cutting off brings others no further apart.
    rcases h with ⟨hfull, hfull'⟩ | hclose
    · rw [min_eq_right (size_le_size_iff.mpr hfull), min_eq_right (size_le_size_iff.mpr hfull'),
        sub_self, abs_zero]
      exact hd
    · refine (abs_min_sub_min_le_max _ _ _ _).trans (max_le hclose ?_)
      rw [sub_self, abs_zero]
      exact hd

/-- What an attempt may add to the difference between two buckets. -/
def margin (l : Limits Float) (k : ℕ) : ℚ := k * size l.capacity / 2 ^ 50

theorem margin_nonneg (l : Limits Float) (k : ℕ) : 0 ≤ margin l k :=
  div_nonneg (mul_nonneg (Nat.cast_nonneg _) (size_nonneg _)) (by positivity)

theorem margin_succ (l : Limits Float) (k : ℕ) :
    margin l (k + 1) = margin l k + size l.capacity / 2 ^ 50 := by
  rw [margin, margin, Nat.cast_succ]
  ring

theorem one_le_size_capacity (hl : l.Fit) : 1 ≤ size l.capacity :=
  one_le_size_iff.mpr hl.oneCode_le

theorem size_capacity_le (hcapacity : code l.capacity < (1023 + 53) * 2 ^ 52) :
    size l.capacity ≤ 2 ^ 53 := by
  rw [← grid_pow]
  exact grid_strictMono.monotone hcapacity.le

/-- Buckets near each other are filled alike: both sums have the same gain and are rounded
once. -/
theorem Near.alike {k : ℕ} (h : Near l (margin l k) b b') (hl : l.Fit)
    (hcapacity : code l.capacity < (1023 + 53) * 2 ^ 52) (t : Instant) :
    Alike l (margin l (k + 1)) (b.filled l t) (b'.filled l t) := by
  obtain ⟨hupdated, hb, hb', hclose⟩ := h
  have hgain : b'.gain l t = b.gain l t := by rw [gain, gain, hupdated]
  -- The gain fills both, or it is within the capacity and so is the error of each sum.
  rcases Nat.le_total (code l.capacity) (code (b.gain l t)) with hfull | hroom
  · exact .inl ⟨hfull.trans (gain_le_filled hl hb t),
      hfull.trans (hgain ▸ gain_le_filled hl hb' t)⟩
  · right
    have hunit := unit_le
    have hone := one_le_size_capacity hl
    have hmost := size_capacity_le hcapacity
    have hsize := size_le_size_iff.mpr hroom
    have hround {c : Bucket Float} (hc : code c.tokens ≤ code l.capacity)
        (hcgain : c.gain l t = b.gain l t) :
        |size (c.filled l t) - (size c.tokens + size (b.gain l t))| ≤
          2 * size l.capacity / 2 ^ 53 + 1 / scale := by
      have hsum : size c.tokens + size (b.gain l t) ≤ 2 * size l.capacity := by
        linarith [size_le_size_iff.mpr hc]
      have hrounded := rounded_filled hl hc t
      rw [hcgain] at hrounded
      have hle : code (c.filled l t) ≤ (1023 + 54) * 2 ^ 52 := by
        refine hrounded.le_of_le_grid ?_ (by decide)
        rw [grid_pow]
        linarith
      have hnearest := (hrounded.nearest (lt_of_le_of_lt hle (by decide))).abs_sub_le
        (add_nonneg (size_nonneg _) (size_nonneg _))
      refine hnearest.trans (add_le_add_left (div_le_div_of_nonneg_right hsum (by positivity)) _)
    have hleft := abs_le.mp (hround hb rfl)
    have hright := abs_le.mp (hround hb' hgain)
    rw [margin_succ]
    rw [abs_le] at hclose ⊢
    generalize 1 / scale = unit at *
    constructor <;> norm_num at * <;> linarith

/-- No attempt in turn finds the bucket within a margin of one token; the margin grows with
each of them. -/
def ClearOfOne (l : Limits Float) : ℕ → Bucket Float → List Instant → Prop
  | _, _, [] => True
  | k, b, t :: ts =>
    margin l k < |size (b.filled l t) - 1| ∧ ClearOfOne l (k + 1) (b.tryTake l t).2 ts

/-- Buckets near each other answer alike as long as they are clear of one token. -/
theorem Near.answers_eq {k : ℕ} (h : Near l (margin l k) b b') (hl : l.Fit)
    (hcapacity : code l.capacity < (1023 + 53) * 2 ^ 52) (hclear : ClearOfOne l (k + 1) b ts) :
    answers l b ts = answers l b' ts := by
  induction ts generalizing b b' k with
  | nil => rfl
  | cons t ts ih =>
    obtain ⟨hnow, hlater⟩ := hclear
    obtain ⟨hsame, hnear⟩ := (h.alike hl hcapacity t).near hl hcapacity h.tokens_le h.tokens_le'
      (margin_nonneg l _) hnow
    rw [answers, answers, hsame, ih hnear hlater]

/-- After a refused attempt, the next one finds the bucket filled almost as without it. -/
theorem alike_of_refused (hl : l.Fit) (hcapacity : code l.capacity < (1023 + 53) * 2 ^ 52)
    (hb : code b.tokens ≤ code l.capacity) (hs : b.updated ≤ s) (hst : s ≤ t)
    (ht : t - b.updated < Span.limit) (hrefused : (b.tryTake l s).1 = false) :
    Alike l (margin l 8) ((b.tryTake l s).2.filled l t) (b.filled l t) := by
  have hb' := tokens_tryTake_le hl hb s
  have hdrift := promised_refused hl hb hs hst ht hrefused
  have hone := one_le_size_capacity hl
  have hmost := size_capacity_le hcapacity
  have hunit := unit_le
  rcases le_or_gt (2 * size l.capacity + 1) (b.promised l t) with hmuch | hlittle
  · -- Both promise twice the capacity, and are full.
    left
    rw [abs_le] at hdrift
    exact ⟨le_filled_of_promised hl hb' hl.oneCode_le hl.capacity_lt.le (by
        rw [← size]
        norm_num at *
        linarith),
      le_filled_of_promised hl hb hl.oneCode_le hl.capacity_lt.le (by
        rw [← size]
        linarith)⟩
  · -- Neither is infinite, and both are close to what is promised.
    right
    rw [abs_le] at hdrift
    obtain ⟨hgain, hfilled⟩ := finite_of_promised_le hl hb (t := t) (by linarith)
    obtain ⟨hgain', hfilled'⟩ := finite_of_promised_le hl hb' (t := t) (by norm_num at *; linarith)
    have hclose := abs_le.mp (abs_filled_sub_le hl hb hgain hfilled)
    have hclose' := abs_le.mp (abs_filled_sub_le hl hb' hgain' hfilled')
    rw [margin, abs_le]
    generalize 1 / scale = unit at *
    constructor <;> norm_num at * <;> linarith

/-- A refused attempt changes no later answer, as long as no later attempt finds the bucket
near one token. -/
theorem answers_of_refused_clear (hl : l.Fit)
    (hcapacity : code l.capacity < (1023 + 53) * 2 ^ 52) (hb : code b.tokens ≤ code l.capacity)
    (h : Clock.Forward b.updated (s :: ts)) (hrefused : (b.tryTake l s).1 = false)
    (hclear : ClearOfOne l 8 (b.tryTake l s).2 ts) :
    answers l (b.tryTake l s).2 ts = answers l b ts := by
  rcases ts with _ | ⟨t, ts⟩
  · rfl
  · obtain ⟨hnow, hlater⟩ := hclear
    have halike := alike_of_refused hl hcapacity hb h.le_head h.tail.le_head
      (h.near t (by simp)) hrefused
    obtain ⟨hsame, hnear⟩ := halike.near hl hcapacity (tokens_tryTake_le hl hb s) hb
      (margin_nonneg l _) hnow
    rw [answers, answers, hsame, hnear.answers_eq hl hcapacity hlater]

/-! ### The limits of a configuration -/

/-- **What a refused attempt changes.**  Attempts are made on a bucket that was full at first,
in the order of the clock, under validated limits.  In fractions, a refused attempt can be left
out and every other answer stays.  In doubles it can be left out if it is made at the instant of
the attempt before it or of the next one, or if no later attempt finds the bucket within a margin
of one token, of some parts of the capacity in `2 ^ 50`, eight for the next attempt and one more
for each after it.  And whatever is granted at some instant is granted
after any refused attempts as soon as the rate has made up for a part of `2 ^ 50` for each of
them, and two more. -/
theorem refusals_leave_little (r : RateLimit) (hqps : IsPositive r.qps) (hburst : 1 ≤ r.burst)
    (start : Instant) (pre : List Instant) :
    (∀ s post, Clock.Forward start (pre ++ s :: post) →
      ((after r.fractions (full r.fractions.capacity start) pre).tryTake r.fractions s).1 = false →
      answers r.fractions (full r.fractions.capacity start) (pre ++ post) =
        (answers r.fractions (full r.fractions.capacity start) (pre ++ s :: post)).eraseIdx
          pre.length) ∧
    (∀ s post, Clock.Forward start (pre ++ s :: post) →
      ((after r.limits (full r.limits.capacity start) pre).tryTake r.limits s).1 = false →
      s = (after r.limits (full r.limits.capacity start) pre).updated ∨ post.head? = some s ∨
        ClearOfOne r.limits 8
          ((after r.limits (full r.limits.capacity start) pre).tryTake r.limits s).2 post →
      answers r.limits (full r.limits.capacity start) (pre ++ post) =
        (answers r.limits (full r.limits.capacity start) (pre ++ s :: post)).eraseIdx
          pre.length) ∧
    ∀ polls t u, Clock.Forward start (pre ++ (polls ++ [u])) →
      (after r.limits (full r.limits.capacity start) pre).updated ≤ t → t ≤ u →
      (∀ a ∈ answers r.limits (after r.limits (full r.limits.capacity start) pre) polls,
        a = false) →
      ((after r.limits (full r.limits.capacity start) pre).tryTake r.limits t).1 = true →
      ((polls.length : ℚ) + 2) / 2 ^ 50 ≤ secondsOf (u - t) * size r.qps →
      ((after r.limits (full r.limits.capacity start) (pre ++ polls)).tryTake r.limits u).1 =
        true := by
  have hl := RateLimit.fit hqps hburst
  have hb := tokens_after_le hl start pre
  refine ⟨fun s post h hrefused => ?_, fun s post h hrefused hclear => ?_,
    fun polls t u h ht htu hrefused hgranted hlater => ?_⟩
  · have hrate := (RateLimit.valid_fractions hqps hburst).rate_pos.le
    exact answers_eraseIdx (answers_of_refused hrate (forward_after h) hrefused)
  · have hcounts := counts_doubles hl r.code_capacity_lt
    have hwithin := (hcounts.within_full start).after hcounts pre
    rcases or_assoc.mpr hclear with hsame | hclear
    · exact answers_eraseIdx (hcounts.answers_of_refused hwithin hrefused hsame)
    · exact answers_eraseIdx
        (answers_of_refused_clear hl r.code_capacity_lt hb (forward_after h) hrefused hclear)
  · rw [after_append]
    exact granted_after_polls hl hb (forward_after h) ht htu hrefused hgranted hlater

/-- Five tokens a second, and room for one. -/
def fiveASecond : RateLimit := ⟨5, 1⟩

/-- A poll after 20 ms, and an attempt just after the fifth of a second that a token takes: left
out or not, the poll changes nothing, in fractions and in doubles. -/
theorem poll_just_before_token :
    answers fiveASecond.fractions (full fiveASecond.fractions.capacity 0) [0, 200000001] =
      (answers fiveASecond.fractions (full fiveASecond.fractions.capacity 0)
        [0, 20000000, 200000001]).eraseIdx 1 ∧
    answers fiveASecond.limits (full fiveASecond.limits.capacity 0) [0, 200000001] =
      (answers fiveASecond.limits (full fiveASecond.limits.capacity 0)
        [0, 20000000, 200000001]).eraseIdx 1 ∧
    ((after fiveASecond.limits (full fiveASecond.limits.capacity 0) [0, 20000000]).tryTake
      fiveASecond.limits 200000001).1 = true := by
  obtain ⟨hfractions, hdoubles, hdelay⟩ :=
    refusals_leave_little fiveASecond (by decide +kernel) (by decide) 0 [0]
  refine ⟨hfractions 20000000 [200000001] ⟨by decide, by decide⟩ (by decide +kernel),
    hdoubles 20000000 [200000001] ⟨by decide, by decide⟩ (by decide +kernel)
      (.inr (.inr ⟨by decide +kernel, trivial⟩)),
    hdelay [20000000] 200000000 200000001 ⟨by decide, by decide⟩ (by decide +kernel) (by decide)
      (by decide +kernel) (by decide +kernel) (by decide +kernel)⟩

/-- Just at the end of that fifth of a second, which is how long the bucket says to wait, there
is a token.  After a poll at 20 ms there is none. -/
theorem token_lost_to_a_poll :
    IsPositive fiveASecond.qps ∧ 1 ≤ fiveASecond.burst ∧
    ((after fiveASecond.limits (full fiveASecond.limits.capacity 0) [0]).waitFor
      fiveASecond.qps).nanos = 200000000 ∧
    answers fiveASecond.limits (full fiveASecond.limits.capacity 0) [0, 200000000] =
      [true, true] ∧
    answers fiveASecond.limits (full fiveASecond.limits.capacity 0) [0, 20000000, 200000000] =
      [true, false, false] := by
  decide +kernel

end Bucket

end ClusterAgent
