/-
Windows of time.

Whatever window of time one looks at, a bucket that is asked in the order of the clock
grants no more in it than its capacity and what the rate gives for its length.  Nothing
need be known of what the bucket was asked before.

* `Bucket.grantsWithin` — how many calls at instants in a window were granted;
* `Bucket.grantsWithin_le_level` — a window that begins no later than the first call;
* `Bucket.grantsWithin_le` — any window;
* `Correlator.grantsWithin_le` — the same for one object.
-/
import ClusterAgent.Proofs.Rate.Flood

namespace ClusterAgent

namespace Bucket

variable {l : Limits ℚ} {b : Bucket ℚ} {ts : List Instant} {s t : Instant}

/-- How many of the calls at instants from `s` to `t` were granted. -/
def grantsWithin (s t : Instant) (ts : List Instant) (as : List Bool) : Nat :=
  (ts.zip as).countP fun call => call.2 && decide (s ≤ call.1 ∧ call.1 ≤ t)

theorem grantsWithin_cons (s t u : Instant) (us : List Instant) (a : Bool) (as : List Bool) :
    grantsWithin s t (u :: us) (a :: as) =
      grantsWithin s t us as + if a && decide (s ≤ u ∧ u ≤ t) then 1 else 0 := by
  rw [grantsWithin, List.zip_cons_cons, List.countP_cons]
  rfl

/-- No call after the end of a window is in it. -/
theorem grantsWithin_eq_zero (h : ∀ u ∈ ts, t < u) (as : List Bool) :
    grantsWithin s t ts as = 0 := by
  rw [grantsWithin, List.countP_eq_zero]
  intro call hcall
  have hlate := h call.1 (List.of_mem_zip hcall).1
  simp [Nat.not_le.mpr hlate]

/-- The level when a window begins covers the calls in it, if there was none before. -/
theorem grantsWithin_le_level (hl : l.Valid) (hb : b.Sound l) (hts : (s :: ts).Pairwise (· ≤ ·))
    (hst : s ≤ t) (r : Instant) :
    (grantsWithin r t ts (answers l b ts) : ℚ) ≤ b.level l s + secondsOf (t - s) * l.rate := by
  have hr := hl.rate_pos.le
  have hgain : ∀ n, 0 ≤ secondsOf n * l.rate := fun n => mul_nonneg (secondsOf_nonneg n) hr
  -- By induction on the calls: what one call takes is missing from the level that is left.
  induction ts generalizing b s with
  | nil =>
    have hlevel := hb.level_nonneg hl s
    have := hgain (t - s)
    simp only [grantsWithin, List.zip_nil_left, List.countP_nil, Nat.cast_zero]
    linarith
  | cons u ts ih =>
    obtain ⟨hfirst, hrest⟩ := List.pairwise_cons.mp hts
    have hsu : s ≤ u := hfirst u List.mem_cons_self
    rcases Nat.lt_or_ge t u with hlate | hut
    · have hall : ∀ v ∈ u :: ts, t < v := by
        intro v hv
        rcases List.mem_cons.mp hv with rfl | hv
        · exact hlate
        · exact lt_of_lt_of_le hlate ((List.pairwise_cons.mp hrest).1 v hv)
      rw [grantsWithin_eq_zero hall]
      have hlevel := hb.level_nonneg hl s
      have := hgain (t - s)
      push_cast
      linarith
    · have hlater := ih (hb.tryTake hl u) hrest hut
      rw [level_tryTake_self] at hlater
      have hlevel := level_le_add hr b s u
      have hone : (if (b.tryTake l u).1 && decide (r ≤ u ∧ u ≤ t) then (1 : ℚ) else 0) ≤
          if (b.tryTake l u).1 then 1 else 0 := by
        cases (b.tryTake l u).1
        · simp
        · rw [Bool.true_and]
          split <;> simp
      rw [answers, grantsWithin_cons, secondsOf_sub hsu hut, add_mul]
      push_cast
      linarith

/-- **No window of time holds more grants than the burst and what the rate gives for it.** -/
theorem grantsWithin_le (hl : l.Valid) (hb : b.Sound l) (hts : ts.Pairwise (· ≤ ·)) (hst : s ≤ t) :
    (grantsWithin s t ts (answers l b ts) : ℚ) ≤ l.capacity + secondsOf (t - s) * l.rate := by
  induction ts generalizing b with
  | nil =>
    have hgain := mul_nonneg (secondsOf_nonneg (t - s)) hl.rate_pos.le
    have hroom := hl.one_le_capacity
    simp only [grantsWithin, List.zip_nil_left, List.countP_nil, Nat.cast_zero]
    linarith
  | cons u ts ih =>
    rcases Nat.lt_or_ge u s with hearly | hsu
    · -- A call before the window only moves the bucket.
      rw [answers, grantsWithin_cons, decide_eq_false (fun h => Nat.not_le.mpr hearly h.1),
        Bool.and_false]
      exact ih (hb.tryTake hl u) (List.pairwise_cons.mp hts).2
    · have hfrom : (s :: u :: ts).Pairwise (· ≤ ·) := by
        refine List.pairwise_cons.mpr ⟨fun v hv => ?_, hts⟩
        rcases List.mem_cons.mp hv with rfl | hv
        · exact hsu
        · exact hsu.trans ((List.pairwise_cons.mp hts).1 v hv)
      have hbound := grantsWithin_le_level hl hb hfrom hst s
      linarith [level_le_capacity b l s]

end Bucket

namespace Correlator

variable {l : Limits ℚ} {ts : List Instant} {s t : Instant}

/-- An object has no more events in a window of time than the envelope allows. -/
theorem grantsWithin_le (hl : l.Valid) (hts : ts.Pairwise (· ≤ ·)) (hst : s ≤ t) :
    (Bucket.grantsWithin s t ts (ownAnswers l none ts) : ℚ) ≤
      l.capacity + secondsOf (t - s) * l.rate := by
  rcases ts with _ | ⟨u, ts⟩
  · exact Bucket.grantsWithin_le (b := Bucket.full l.capacity s) hl (Bucket.sound_full hl s) hts hst
  · exact Bucket.grantsWithin_le hl (Bucket.sound_full hl u) hts hst

end Correlator

end ClusterAgent
