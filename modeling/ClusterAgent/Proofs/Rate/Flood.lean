/-
Events of one object, at instants that come in any order.

Whoever asks for an event reads the clock first and reaches the bucket later, so
a bucket may be shown an earlier instant after a later one.  Such a call credits
nothing, but it moves the time of the last refill back, and the next call is
credited for the same time once more.

* `Clock.credited` — all moves forward together, which is what a bucket is
  credited for;
* `Bucket.count_answers_le` — the grants are covered by the tokens at hand and
  the time credited;
* `Correlator.answersFor_eq` — the events of one object are judged by a bucket of
  its own, whatever comes for other objects in between;
* `Correlator.count_answersFor_le_of_ordered` — in the order of the clock no more
  events get through than the envelope allows;
* `Correlator.allowed_le_iff_credited_le_extent` — the burst and what the rate
  gives between the earliest and the latest instant bound the events of an object
  under all limits exactly when no more time than that is credited.

Design notes: for the second direction the limits are made to the instants.  A
burst that is one short of the calls, and a rate that makes up for the one over
the time credited, let every call through and never reach the capacity.
-/
import ClusterAgent.Proofs.Rate.Envelope
import ClusterAgent.Rate.Correlator

namespace ClusterAgent

namespace Clock

/-- The time that passes in all moves forward from one instant to the next. -/
def credited : List Instant → Nat
  | t :: u :: ts => (Span.between t u).nanos + credited (u :: ts)
  | _ => 0

/-- The time between the earliest and the latest of some instants. -/
def extent (ts : List Instant) : Nat := ts.max?.getD 0 - ts.min?.getD 0

theorem credited_cons_cons (t u : Instant) (ts : List Instant) :
    credited (t :: u :: ts) = (Span.between t u).nanos + credited (u :: ts) := rfl

theorem credited_le {t m : Instant} {ts : List Instant} (h : (t :: ts).Pairwise (· ≤ ·))
    (hm : ∀ u ∈ t :: ts, u ≤ m) : credited (t :: ts) ≤ m - t := by
  induction ts generalizing t with
  | nil => exact Nat.zero_le _
  | cons u ts ih =>
    have hstep : t ≤ u := (List.pairwise_cons.mp h).1 u List.mem_cons_self
    have hrest := ih (List.pairwise_cons.mp h).2 fun v hv => hm v (List.mem_cons_of_mem t hv)
    have hlast : u ≤ m := hm u (List.mem_cons_of_mem t List.mem_cons_self)
    calc credited (t :: u :: ts)
        = (Span.between t u).nanos + credited (u :: ts) := credited_cons_cons t u ts
      _ ≤ (u - t) + (m - u) := Nat.add_le_add (Span.nanos_between_le t u) hrest
      _ = m - t := by rw [Nat.add_comm, Nat.sub_add_sub_cancel hlast hstep]

/-- Instants that never go back credit no more than the time they span. -/
theorem credited_le_extent {ts : List Instant} (h : ts.Pairwise (· ≤ ·)) :
    credited ts ≤ extent ts := by
  rcases ts with _ | ⟨t, ts⟩
  · exact Nat.zero_le _
  have hmin : (t :: ts).min? = some t := by
    rw [List.min?_eq_some_iff]
    refine ⟨List.mem_cons_self, fun u hu => ?_⟩
    rcases List.mem_cons.mp hu with rfl | hu
    · exact le_rfl
    · exact (List.pairwise_cons.mp h).1 u hu
  rcases hmax : (t :: ts).max? with _ | m
  · exact absurd (List.max?_eq_none_iff.mp hmax) (List.cons_ne_nil t ts)
  · rw [extent, hmin, hmax]
    exact credited_le h (List.max?_eq_some_iff.mp hmax).2

end Clock

namespace Bucket

open Clock

variable {l : Limits ℚ}

/-! ### Grants and credit -/

/-- The grants of a bucket are covered by its tokens and by the time credited. -/
theorem count_answers_le (hl : l.Valid) (ts : List Instant) {b : Bucket ℚ} (hb : b.Sound l) :
    ((answers l b ts).count true : ℚ) ≤
      b.tokens + secondsOf (credited (b.updated :: ts)) * l.rate := by
  induction ts generalizing b with
  | nil => simpa [answers, credited, secondsOf_zero] using hb.tokens_nonneg
  | cons t ts ih =>
    have hrest := ih (hb.tryTake hl t)
    have hlevel : b.level l t ≤ b.tokens + secondsOf (Span.between b.updated t).nanos * l.rate := by
      rw [level_eq]
      exact min_le_left ..
    rw [tryTake_tokens, tryTake_updated] at hrest
    rw [credited_cons_cons, secondsOf_add, add_mul, answers, count_true_cons]
    push_cast
    linarith

/-- Every call is granted if all but the last find their token at hand, the last one
finds what the time credited brings, and nothing is cut off. -/
theorem answers_eq_replicate (hr : 0 ≤ l.rate) (ts : List Instant) {b : Bucket ℚ}
    (hhand : (ts.length : ℚ) ≤ b.tokens + 1)
    (hlast : (ts.length : ℚ) ≤ b.tokens + secondsOf (credited (b.updated :: ts)) * l.rate)
    (hroom : b.tokens + secondsOf (credited (b.updated :: ts)) * l.rate ≤ l.capacity) :
    answers l b ts = List.replicate ts.length true := by
  induction ts generalizing b with
  | nil => rfl
  | cons t ts ih =>
    rw [credited_cons_cons, secondsOf_add, add_mul] at hlast hroom
    have hnow : 0 ≤ secondsOf (Span.between b.updated t).nanos * l.rate :=
      mul_nonneg (secondsOf_nonneg _) hr
    have hlater : 0 ≤ secondsOf (credited (t :: ts)) * l.rate :=
      mul_nonneg (secondsOf_nonneg _) hr
    -- All credit together fits under the capacity, so this one does.
    have hlevel : b.level l t = b.tokens + secondsOf (Span.between b.updated t).nanos * l.rate := by
      rw [level_eq]
      exact min_eq_left (by linarith)
    simp only [List.length_cons, Nat.cast_add, Nat.cast_one] at hhand hlast
    have hgot : (b.tryTake l t).1 = true := by
      rw [tryTake_eq_true_iff, hlevel]
      -- The last call counts on what is credited, every other one on a token at hand.
      rcases ts with _ | ⟨u, ts⟩
      · simp only [credited, secondsOf_zero, List.length_nil, Nat.cast_zero] at hlast
        linarith
      · simp only [List.length_cons, Nat.cast_add, Nat.cast_one] at hhand
        have hlen : (0 : ℚ) ≤ ts.length := Nat.cast_nonneg _
        linarith
    have htokens : (b.tryTake l t).2.tokens = b.level l t - 1 := by
      rw [tryTake_tokens, hgot, if_pos rfl]
    rw [answers, hgot, List.length_cons, List.replicate_succ]
    refine congrArg _ (ih ?_ ?_ ?_)
    · rw [htokens]
      linarith
    · rw [htokens, tryTake_updated]
      linarith
    · rw [htokens, tryTake_updated]
      linarith

end Bucket

namespace Correlator

open Bucket Clock

/-! ### One object among others -/

/-- The instants of the calls for an object, in the order of the calls. -/
def instantsOf (object : String) (calls : List (String × Instant)) : List Instant :=
  (calls.filter fun call => call.1 = object).map (·.2)

section

variable {α : Type} [TokenArithmetic α]

/-- The answers that an object gets in a run of calls for any objects. -/
def answersFor (object : String) : Correlator α → List (String × Instant) → List Bool
  | _, [] => []
  | c, (o, t) :: calls =>
    let rest := answersFor object (c.allow o t).2.1 calls
    if o = object then (c.allow o t).1 :: rest else rest

/-- The answers of an object's bucket, which is made full at the first call if there is none. -/
def ownAnswers (l : Limits α) (bucket : Option (Bucket α)) : List Instant → List Bool
  | [] => []
  | t :: ts => answers l (bucket.getD (full l.capacity t)) (t :: ts)

theorem ownAnswers_some (l : Limits α) (b : Bucket α) (ts : List Instant) :
    ownAnswers l (some b) ts = answers l b ts := by
  cases ts <;> rfl

theorem limits_allow (c : Correlator α) (object : String) (t : Instant) :
    (c.allow object t).2.1.limits = c.limits := rfl

/-- An object is answered as its own bucket answers it alone. -/
theorem answersFor_eq (object : String) (c : Correlator α) (calls : List (String × Instant)) :
    c.answersFor object calls =
      ownAnswers c.limits (c.bucketOf object) (instantsOf object calls) := by
  induction calls generalizing c with
  | nil => rfl
  | cons call calls ih =>
    obtain ⟨o, t⟩ := call
    rw [answersFor, ih, limits_allow]
    by_cases ho : o = object
    · subst ho
      rw [if_pos rfl, bucketOf_allow_self, ownAnswers_some]
      simp [instantsOf, ownAnswers, answers, allow, bucketAt]
    · rw [if_neg ho, bucketOf_allow_of_ne c (Ne.symm ho)]
      simp [instantsOf, ho]

end

/-! ### The bound on the events of an object -/

theorem answersFor_new (l : Limits ℚ) {object : String} {calls : List (String × Instant)}
    {t : Instant} {ts : List Instant} (h : instantsOf object calls = t :: ts) :
    (new l).answersFor object calls = answers l (full l.capacity t) (t :: ts) := by
  rw [answersFor_eq, h]
  rfl

theorem credited_start (t : Instant) (ts : List Instant) :
    credited (t :: t :: ts) = credited (t :: ts) := by
  have h := Span.nanos_between_le t t
  rw [credited_cons_cons]
  omega

/-- The events of an object are bounded by the burst and the time credited. -/
theorem count_answersFor_le {l : Limits ℚ} (hl : l.Valid) (object : String)
    (calls : List (String × Instant)) :
    (((new l).answersFor object calls).count true : ℚ) ≤
      l.capacity + l.rate * secondsOf (credited (instantsOf object calls)) := by
  rcases h : instantsOf object calls with _ | ⟨t, ts⟩
  · rw [answersFor_eq, h]
    simpa [ownAnswers, credited, secondsOf_zero] using zero_le_one.trans hl.one_le_capacity
  · rw [answersFor_new l h, mul_comm, ← credited_start t ts]
    exact count_answers_le hl (t :: ts) (sound_full hl t)

/-- In the order of the clock the events of an object keep to the envelope. -/
theorem count_answersFor_le_of_ordered {l : Limits ℚ} (hl : l.Valid) {object : String}
    {calls : List (String × Instant)} (h : (instantsOf object calls).Pairwise (· ≤ ·)) :
    (((new l).answersFor object calls).count true : ℚ) ≤
      l.capacity + l.rate * secondsOf (extent (instantsOf object calls)) := by
  have hless := secondsOf_strictMono.monotone (credited_le_extent h)
  have hmul := mul_le_mul_of_nonneg_left hless hl.rate_pos.le
  exact (count_answersFor_le hl object calls).trans (add_le_add_right hmul _)

/-- Limits made to a run, under which every one of its events is allowed. -/
theorem count_answersFor_of_credited_pos (object : String) (calls : List (String × Instant))
    (hpos : 0 < credited (instantsOf object calls)) :
    ∃ l : Limits ℚ, l.Valid ∧ l.rate * secondsOf (credited (instantsOf object calls)) = 1 ∧
      (((new l).answersFor object calls).count true : ℚ) = l.capacity + 1 := by
  rcases h : instantsOf object calls with _ | ⟨t, _ | ⟨u, ts⟩⟩
  · simp [h, credited] at hpos
  · simp [h, credited] at hpos
  · rw [h] at hpos
    set seconds := secondsOf (credited (t :: u :: ts)) with hseconds
    have hsec : 0 < seconds := by
      rw [← secondsOf_zero]
      exact secondsOf_strictMono hpos
    -- One token short of the calls, and a rate that brings that one over the time credited.
    set l : Limits ℚ := ⟨(u :: ts).length, 1 / seconds⟩ with hldef
    have hrate : l.rate * seconds = 1 := one_div_mul_cancel hsec.ne'
    have hcap : l.capacity = ts.length + 1 := by simp [hldef]
    have hlen : (0 : ℚ) ≤ ts.length := Nat.cast_nonneg _
    have hl : l.Valid := ⟨by linarith, one_div_pos.mpr hsec⟩
    refine ⟨l, hl, hrate, ?_⟩
    have hfirst : ((full l.capacity t : Bucket ℚ).tryTake l t).1 = true := by
      rw [tryTake_eq_true_iff, level_full hl.rate_pos.le]
      exact hl.one_le_capacity
    have htokens : ((full l.capacity t : Bucket ℚ).tryTake l t).2.tokens = l.capacity - 1 := by
      rw [tryTake_tokens, hfirst, if_pos rfl, level_full hl.rate_pos.le]
    have hrest : answers l ((full l.capacity t : Bucket ℚ).tryTake l t).2 (u :: ts) =
        List.replicate (u :: ts).length true := by
      apply answers_eq_replicate hl.rate_pos.le
      · rw [htokens]
        simp [hcap]
      · rw [htokens, tryTake_updated, mul_comm, hrate]
        simp [hcap]
      · rw [htokens, tryTake_updated, mul_comm, hrate]
        simp
    rw [answersFor_new l h, answers, hfirst, hrest, count_true_cons, List.count_replicate_self,
      hcap]
    simp

/-- **The bound on the events of an object, and what it takes.** Over all limits, the burst
and what the rate gives between the earliest and the latest instant bound the events of an
object exactly when the moves forward together are no longer than that. -/
theorem allowed_le_iff_credited_le_extent (object : String) (calls : List (String × Instant)) :
    (∀ l : Limits ℚ, l.Valid →
      (((new l).answersFor object calls).count true : ℚ) ≤
        l.capacity + l.rate * secondsOf (extent (instantsOf object calls))) ↔
      credited (instantsOf object calls) ≤ extent (instantsOf object calls) := by
  constructor
  · intro hbound
    by_contra hlt
    rw [not_le] at hlt
    obtain ⟨l, hl, hone, hall⟩ :=
      count_answersFor_of_credited_pos object calls (Nat.zero_lt_of_lt hlt)
    have hless : secondsOf (extent (instantsOf object calls)) <
        secondsOf (credited (instantsOf object calls)) := secondsOf_strictMono hlt
    have hle := hbound l hl
    rw [hall] at hle
    have := mul_lt_mul_of_pos_left hless hl.rate_pos
    linarith
  · intro hle l hl
    refine le_trans (count_answersFor_le hl object calls) (add_le_add_right ?_ _)
    exact mul_le_mul_of_nonneg_left (secondsOf_strictMono.monotone hle) hl.rate_pos.le

/-- Two readings of the clock that arrive swapped let a third event through within one
second, where one token and one a second allow for two. -/
theorem flood_of_swapped_readings :
    let l : Limits ℚ := ⟨1, 1⟩
    let calls : List (String × Instant) :=
      [("a", 0), ("a", 1000000000), ("a", 0), ("a", 1000000000)]
    l.Valid ∧ (new l).answersFor "a" calls = [true, true, false, true] ∧
      ¬ (((new l).answersFor "a" calls).count true : ℚ) ≤
        l.capacity + l.rate * secondsOf (extent (instantsOf "a" calls)) := by
  intro l calls
  have hl : l.Valid := ⟨by decide +kernel, by decide +kernel⟩
  have has : (new l).answersFor "a" calls = [true, true, false, true] := by decide +kernel
  refine ⟨hl, has, ?_⟩
  rw [has]
  decide +kernel

end Correlator

end ClusterAgent
