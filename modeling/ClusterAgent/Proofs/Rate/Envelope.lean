/-
What a bucket grants, told by windows of time.

The bucket keeps one number that is cut off at its capacity.  The envelope keeps
every call there ever was: a call is granted exactly when, for every earlier call
and for itself, the grants from that call on, this one included, are no more than
the capacity and what the rate gives for the time since.

* `Bucket.answers`, `Bucket.after` — a bucket that is asked at one instant after the other;
* `Bucket.grants` — how many of the calls in a window were granted;
* `Bucket.answers_eq_true_iff` — a bucket in any state, in the order of the clock;
* `Bucket.granted_iff_within_envelope` — a bucket that was full at first.

Design notes: the induction goes along the calls and changes the bucket.  A
bucket in any state bounds the window of its first call by its own level, and
every later window by the capacity; the next call splits the level into the two.
-/
import ClusterAgent.Proofs.Rate.Refill

namespace ClusterAgent

/-- Instants in the order of the clock, none before the first, and none further from it
than a span is long: a clock has no two instants that far apart. -/
structure Clock.Forward (start : Instant) (ts : List Instant) : Prop where
  ordered : (start :: ts).Pairwise (· ≤ ·)
  near : ∀ t ∈ ts, t - start < Span.limit

namespace Clock

variable {start t : Instant} {ts : List Instant}

theorem Forward.le_head (h : Forward start (t :: ts)) : start ≤ t :=
  (List.pairwise_cons.mp h.ordered).1 t List.mem_cons_self

theorem Forward.tail (h : Forward start (t :: ts)) : Forward t ts where
  ordered := (List.pairwise_cons.mp h.ordered).2
  near u hu :=
    lt_of_le_of_lt (Nat.sub_le_sub_left h.le_head u) (h.near u (List.mem_cons_of_mem t hu))

theorem Forward.le_getElem (h : Forward start ts) {i : Nat} (hi : i < ts.length) :
    start ≤ ts[i] :=
  (List.pairwise_cons.mp h.ordered).1 _ (List.getElem_mem hi)

theorem Forward.getElem_le (h : Forward start ts) {i j : Nat} (hij : i ≤ j) (hj : j < ts.length) :
    ts[i] ≤ ts[j] := by
  rcases hij.eq_or_lt with rfl | hlt
  · exact le_rfl
  · exact List.pairwise_iff_getElem.mp (List.pairwise_cons.mp h.ordered).2 i j (by omega) hj hlt

end Clock

namespace Bucket

/-! ### Calls in turn -/

section

variable {α : Type} [TokenArithmetic α]

/-- The answers of a bucket to calls at instants in turn. -/
def answers (l : Limits α) : Bucket α → List Instant → List Bool
  | _, [] => []
  | b, t :: ts => (b.tryTake l t).1 :: answers l (b.tryTake l t).2 ts

/-- The bucket after calls at instants in turn. -/
def after (l : Limits α) (b : Bucket α) (ts : List Instant) : Bucket α :=
  ts.foldl (fun b t => (b.tryTake l t).2) b

theorem length_answers (l : Limits α) (b : Bucket α) (ts : List Instant) :
    (answers l b ts).length = ts.length := by
  induction ts generalizing b with
  | nil => rfl
  | cons t ts ih => rw [answers, List.length_cons, ih, List.length_cons]

theorem answers_append (l : Limits α) (b : Bucket α) (ts us : List Instant) :
    answers l b (ts ++ us) = answers l b ts ++ answers l (after l b ts) us := by
  induction ts generalizing b with
  | nil => rfl
  | cons t ts ih =>
    rw [List.cons_append, answers, ih, answers, List.cons_append, after, after, List.foldl_cons]

theorem after_append (l : Limits α) (b : Bucket α) (ts us : List Instant) :
    after l b (ts ++ us) = after l (after l b ts) us := List.foldl_append

end

/-- How many calls of a window were granted, from the call `i` on and before the call `j`. -/
def grants (as : List Bool) (i j : Nat) : Nat := ((as.take j).drop i).count true

theorem count_true_cons (a : Bool) (as : List Bool) :
    (a :: as).count true = as.count true + if a then 1 else 0 := by
  cases a <;> simp

theorem grants_self (as : List Bool) (i : Nat) : grants as i i = 0 := by
  rw [grants, List.drop_eq_nil_of_le (List.length_take_le i as)]
  rfl

theorem grants_zero_succ (a : Bool) (as : List Bool) (j : Nat) :
    grants (a :: as) 0 (j + 1) = grants as 0 j + if a then 1 else 0 := by
  rw [grants, List.take_succ_cons, List.drop_zero, count_true_cons]
  rfl

/-! ### The envelope -/

variable {l : Limits ℚ}

/-- A bucket in any state: its own level bounds the window of the first call, the
capacity every later one. -/
theorem answers_eq_true_iff {ts : List Instant} {b : Bucket ℚ}
    (h : Clock.Forward b.updated ts) {j : Nat} (hj : j < ts.length) :
    (answers l b ts)[j]? = some true ↔
      (grants (answers l b ts) 0 j + 1 ≤ b.level l ts[0] + secondsOf (ts[j] - ts[0]) * l.rate) ∧
      ∀ (i : Nat) (_ : i < j), grants (answers l b ts) (i + 1) j + 1 ≤
        l.capacity + secondsOf (ts[j] - ts[i + 1]) * l.rate := by
  -- By induction on the calls: the bucket that the first call leaves answers the rest.
  induction ts generalizing b j with
  | nil => exact absurd hj (Nat.not_lt_zero j)
  | cons t ts ih =>
    rcases j with _ | j
    · simp [answers, grants_self, tryTake_eq_true_iff, secondsOf_zero]
    · have hj' : j < ts.length := Nat.lt_of_succ_lt_succ hj
      have hnext : (b.tryTake l t).2.updated = t := tryTake_updated b l t
      have hfwd : Clock.Forward (b.tryTake l t).2.updated ts := by
        rw [hnext]
        exact h.tail
      have hfirst : t ≤ ts[0] := h.tail.le_getElem (by omega)
      have hlater : ts[0] ≤ ts[j] := h.tail.getElem_le (Nat.zero_le j) hj'
      have hnear : ts[0] - t < Span.limit := h.tail.near _ (List.getElem_mem _)
      -- The level at the next call is the lesser of what is left and of the capacity.
      have hlevel := level_tryTake b l t ts[0]
      rw [Span.nanos_between hnear] at hlevel
      show (answers l (b.tryTake l t).2 ts)[j]? = some true ↔ _
      rw [ih hfwd hj', hlevel, ← min_add_add_right, le_min_iff]
      show _ ↔ (grants ((b.tryTake l t).1 :: answers l (b.tryTake l t).2 ts) 0 (j + 1) + 1 ≤
          b.level l t + secondsOf (ts[j] - t) * l.rate) ∧
        ∀ (i : Nat) (_ : i < j + 1),
          grants (answers l (b.tryTake l t).2 ts) i j + 1 ≤
            l.capacity + secondsOf (ts[j] - ts[i]) * l.rate
      rw [grants_zero_succ, secondsOf_sub hfirst hlater]
      push_cast
      -- The window of the next call is now one of the later windows.
      constructor
      · rintro ⟨⟨hown, hzero⟩, hrest⟩
        refine ⟨by linarith, fun i hi => ?_⟩
        rcases i with _ | i
        · exact hzero
        · exact hrest i (by omega)
      · rintro ⟨hown, hall⟩
        exact ⟨⟨by linarith, hall 0 (by omega)⟩, fun i hi => hall (i + 1) (by omega)⟩

/-- **A bucket decides as the envelope does.** A call is granted exactly when no window
that ends with it would hold more grants than the burst and what the rate gives for its
length. -/
theorem granted_iff_within_envelope (hl : l.Valid) {start : Instant} {ts : List Instant}
    (h : Clock.Forward start ts) {j : Nat} (hj : j < ts.length) :
    (answers l (full l.capacity start) ts)[j]? = some true ↔
      ∀ (i : Nat) (_ : i ≤ j), (grants (answers l (full l.capacity start) ts) i j : ℚ) + 1 ≤
        l.capacity + l.rate * secondsOf (ts[j] - ts[i]) := by
  have hr := hl.rate_pos.le
  rw [answers_eq_true_iff h hj, level_full hr]
  simp only [mul_comm l.rate]
  constructor
  · rintro ⟨hzero, hrest⟩ i hi
    rcases i with _ | i
    · exact hzero
    · exact hrest i (by omega)
  · intro hall
    exact ⟨hall 0 (by omega), fun i hi => hall (i + 1) (by omega)⟩

/-- One token, two a second: taken at once, missed at once and after 200 ms, there again
after 500 ms, and so within the envelope of every window. -/
theorem within_envelope_after_half_second :
    let l : Limits ℚ := ⟨1, 2⟩
    let ts : List Instant := [0, 0, 200000000, 500000000]
    l.Valid ∧ Clock.Forward 0 ts ∧
      answers l (full l.capacity 0) ts = [true, false, false, true] ∧
      ∀ (i : Nat) (_ : i ≤ 3), (grants (answers l (full l.capacity 0) ts) i 3 : ℚ) + 1 ≤
        l.capacity + l.rate * secondsOf (500000000 - ts[i]!) := by
  intro l ts
  have hl : l.Valid := ⟨by decide +kernel, by decide +kernel⟩
  have hts : Clock.Forward 0 ts := ⟨by decide, by decide⟩
  have has : answers l (full l.capacity 0) ts = [true, false, false, true] := by decide +kernel
  refine ⟨hl, hts, has, fun i hi => ?_⟩
  have hlen : i < ts.length := Nat.lt_succ_of_le hi
  have hget : ts[i]! = ts[i] := getElem!_pos ts i hlen
  rw [hget]
  exact (granted_iff_within_envelope hl hts (by decide)).mp (by rw [has]; rfl) i hi

end Bucket

end ClusterAgent
