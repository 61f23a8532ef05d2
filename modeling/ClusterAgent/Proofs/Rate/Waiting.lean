/-
No waiter sleeps past a token.

A waiter works out once when its token should be there, and then sleeps, while
others take tokens, come, wake or give up.  The limiter is watched millisecond by
millisecond, under any order of these; the clock moves on when everyone whose
timer ran off has tried again.

* `Bucket.waitFor_le` — a wait ends no later than the level reaches one, for all
  that it is rounded to a nanosecond;
* `Moment.Step` — what may happen to a limiter at a millisecond;
* `Moment.Watched` — until the timer of a waiter runs off the level is below one,
  and `Moment.Watched.step` keeps that;
* `Moment.advance_steps` — letting time pass is a run of such steps;
* `Moment.refused_of_waiting` — whenever somebody still waits when all is done,
  there is no token.

Design notes: others can only lower the level of a later instant, so a timer may
run off too early, but never too late.  The steps allow more than a limiter does:
a waiter may try again at any time and out of turn.
-/
import ClusterAgent.Proofs.Rate.Draws
import ClusterAgent.Proofs.Time.Passing
import Mathlib.Logic.Relation

namespace ClusterAgent

open Relation

/-! ### Waits -/

theorem Decimal.nearestEven_le {num den n : Nat} (hden : 0 < den) (h : num ≤ n * den) :
    nearestEven num den ≤ n := by
  have hnear := (nearestEven_near num den hden).1
  by_contra hlt
  have hmul : (n + 1) * den ≤ nearestEven num den * den :=
    Nat.mul_le_mul_right den (by omega)
  rw [Nat.add_mul] at hmul
  omega

theorem Rat.toSpan?_le {q : ℚ} {n : Nat} (hq : 0 ≤ q) (h : q ≤ secondsOf n) (hn : n < Span.limit) :
    ∃ d, Rat.toSpan? q = some d ∧ d.nanos ≤ n := by
  have hden : (0 : ℚ) < q.den := by exact_mod_cast q.den_pos
  have hnum : q.num.toNat * nanosPerSecond ≤ n * q.den := by
    have hnat : ((q.num.toNat : Int) : ℚ) = q.num := by
      rw [Int.toNat_of_nonneg (Rat.num_nonneg.mpr hq)]
    rw [secondsOf, le_div_iff₀ (by norm_num [nanosPerSecond])] at h
    have hmul : q.num * (nanosPerSecond : ℚ) ≤ n * q.den := by
      rw [← Rat.num_div_den q, div_mul_eq_mul_div, div_le_iff₀ hden] at h
      simpa using h
    rw [← hnat] at hmul
    exact_mod_cast hmul
  have hle := Decimal.nearestEven_le q.den_pos hnum
  have hlimit := lt_of_le_of_lt hle hn
  refine ⟨⟨_, hlimit⟩, ?_, hle⟩
  rw [Rat.toSpan?, if_neg (not_lt.mpr hq), Span.ofNanos?, dif_pos hlimit]

namespace Bucket

variable {b : Bucket ℚ} {l : Limits ℚ}

theorem waitFor_eq (b : Bucket ℚ) (rate : ℚ) :
    b.waitFor rate = (Rat.toSpan? (max (1 - b.tokens) 0 / rate)).getD Span.longest := by
  show (Rat.toSpan? ((if 1 - b.tokens < 0 then 0 else 1 - b.tokens) / rate)).getD _ = _
  rw [max_def]
  congr 3
  split <;> split <;> first | rfl | linarith

/-- A wait is over by the time the level reaches one. -/
theorem waitFor_le {u : Instant} (hr : 0 < l.rate) (hu : u - b.updated < Span.limit)
    (h : 1 ≤ b.level l u) : (b.waitFor l.rate).nanos ≤ u - b.updated := by
  have hlevel : 1 ≤ b.tokens + secondsOf (u - b.updated) * l.rate := by
    rw [level_eq, Span.nanos_between hu] at h
    exact h.trans (min_le_left _ _)
  have hnonneg : 0 ≤ max (1 - b.tokens) 0 / l.rate := div_nonneg (le_max_right _ _) hr.le
  have hle : max (1 - b.tokens) 0 / l.rate ≤ secondsOf (u - b.updated) := by
    rw [div_le_iff₀ hr]
    refine max_le (by linarith) (mul_nonneg (secondsOf_nonneg _) hr.le)
  obtain ⟨d, hd, hdle⟩ := Rat.toSpan?_le hnonneg hle hu
  rw [waitFor_eq, hd]
  exact hdle

/-- Until the timer of a wait runs off the level stays below one. -/
theorem level_lt_one_of_runsOffAt {ms m : Nat} (hr : 0 < l.rate)
    (hb : b.updated = Clock.instantOf ms) (hle : ms ≤ m)
    (hm : Clock.instantOf m < Span.longest.nanos)
    (hoff : (Clock.runsOffAt (Clock.instantOf ms) (b.waitFor l.rate)).any (· ≤ m) = false) :
    b.level l (Clock.instantOf m) < 1 := by
  by_contra hge
  have hlast : Span.longest.nanos < Span.limit := Span.longest.lt_limit
  have hgap : Clock.instantOf m - b.updated ≤ Clock.instantOf m := Nat.sub_le _ _
  have hmono : Clock.instantOf ms ≤ Clock.instantOf m := Nat.mul_le_mul_right _ hle
  have hwait := waitFor_le hr (lt_of_le_of_lt hgap (hm.trans hlast)) (not_lt.mp hge)
  -- The longest wait has no timer, but it would outlast the clock.
  have hne : b.waitFor l.rate ≠ Span.longest := by
    intro heq
    rw [heq] at hwait
    exact absurd (lt_of_le_of_lt (hwait.trans hgap) hm) (lt_irrefl _)
  have hend : Clock.instantOf ms + (b.waitFor l.rate).nanos ≤ Clock.instantOf m := by
    rw [hb] at hwait
    calc Clock.instantOf ms + (b.waitFor l.rate).nanos
        ≤ Clock.instantOf ms + (Clock.instantOf m - Clock.instantOf ms) :=
          Nat.add_le_add_left hwait _
      _ = Clock.instantOf m := Nat.add_sub_cancel' hmono
  rw [Clock.runsOffAt, if_neg hne, Option.any_some, decide_eq_false_iff_not] at hoff
  exact hoff (Clock.milliAt_le hend)

end Bucket

/-! ### A limiter at a millisecond -/

/-- A limiter at a whole millisecond, and the waiters whose timers ran off and who did
not try again yet. -/
structure Moment (α : Type) where
  ms : Nat
  limiter : Limiter α
  due : List RequestId

namespace Moment

section

variable {α : Type} [TokenArithmetic α]

/-- A limiter when it is made. -/
def start (limits : Limits α) (ms : Nat) : Moment α :=
  ⟨ms, Limiter.new limits (Clock.instantOf ms), []⟩

/-- What may happen to a limiter. The clock moves on by a millisecond when no waiter is
left that should have tried again. -/
inductive Step : Moment α → Moment α → Prop
  | tryAcquire (s : Moment α) :
      Step s { s with limiter := (s.limiter.tryAcquire (Clock.instantOf s.ms)).2 }
  | acquire (s : Moment α) (id : RequestId) :
      Step s { s with limiter := (s.limiter.acquire id (Clock.instantOf s.ms)).2.1 }
  | abandon (s : Moment α) (id : RequestId) :
      Step s ⟨s.ms, s.limiter.abandon id, s.due.filter (· ≠ id)⟩
  | retry (s : Moment α) (id : RequestId) :
      Step s ⟨s.ms, (s.limiter.retry id (Clock.instantOf s.ms)).2, s.due.filter (· ≠ id)⟩
  | tick (s : Moment α) (idle : s.due = []) :
      Step s ⟨s.ms + 1, s.limiter,
        (s.limiter.waiters.filter (Limiter.isDue (s.ms + 1))).map (·.id)⟩

end

/-- What holds while anybody waits: the level stays below one until the waiter's timer
runs off, and after it until the waiter tries again. -/
structure Watched (limits : Limits ℚ) (s : Moment ℚ) : Prop where
  limits_eq : s.limiter.limits = limits
  updated_le : s.limiter.bucket.updated ≤ Clock.instantOf s.ms
  asleep : ∀ w ∈ s.limiter.waiters, ∀ m, s.ms ≤ m → Clock.instantOf m < Span.longest.nanos →
    Limiter.isDue m w = false → s.limiter.bucket.level limits (Clock.instantOf m) < 1
  tried : ∀ w ∈ s.limiter.waiters, w.id ∉ s.due →
    s.limiter.bucket.level limits (Clock.instantOf s.ms) < 1

variable {limits : Limits ℚ} {s s' : Moment ℚ}

theorem watched_start (limits : Limits ℚ) (ms : Nat) : Watched limits (start limits ms) where
  limits_eq := rfl
  updated_le := le_refl _
  asleep _ hw := absurd hw List.not_mem_nil
  tried _ hw := absurd hw List.not_mem_nil

/-! ### One step -/

/-- An attempt leaves everybody watched: those who waited before, and those who begin to
wait because it was refused. -/
theorem Watched.attempt (hl : limits.Valid) (h : Watched limits s) {ws : List Waiter}
    {due : List RequestId}
    (hws : ∀ w ∈ ws, (w ∈ s.limiter.waiters ∧ (w.id ∈ s.due → w.id ∈ due)) ∨
      ((s.limiter.tryAcquire (Clock.instantOf s.ms)).1 = false ∧
        w.wakesAt = Clock.runsOffAt (Clock.instantOf s.ms)
          (s.limiter.tryAcquire (Clock.instantOf s.ms)).2.wait)) :
    Watched limits
      ⟨s.ms, { (s.limiter.tryAcquire (Clock.instantOf s.ms)).2 with waiters := ws }, due⟩ := by
  obtain ⟨rfl, hupdated, hasleep, htried⟩ := h
  refine ⟨rfl, (Bucket.tryTake_updated _ _ _).le, ?_, ?_⟩
  · intro w hw m hm hclock hdue
    rcases hws w hw with ⟨hold, -⟩ | ⟨hf, hwakes⟩
    · -- The attempt of another only lowers what this waiter's timer was set for.
      have hmono : Clock.instantOf s.ms ≤ Clock.instantOf m := Nat.mul_le_mul_right _ hm
      have hnear : Clock.instantOf m - s.limiter.bucket.updated < Span.limit :=
        lt_of_le_of_lt (Nat.sub_le _ _) (hclock.trans Span.longest.lt_limit)
      exact lt_of_le_of_lt (Bucket.level_tryTake_le hl.rate_pos.le hupdated hmono hnear)
        (hasleep w hold m hm hclock hdue)
    · rw [Limiter.isDue, hwakes] at hdue
      exact Bucket.level_lt_one_of_runsOffAt hl.rate_pos (Bucket.tryTake_updated _ _ _) hm
        hclock hdue
  · intro w hw hout
    rcases hws w hw with ⟨hold, hkept⟩ | ⟨hf, -⟩
    · exact lt_of_le_of_lt (Bucket.level_tryTake_self_le _ _ _)
        (htried w hold fun hin => hout (hkept hin))
    · exact Bucket.level_lt_one_of_refused hf

theorem Watched.step (hl : limits.Valid) (h : Watched limits s) (hs : Step s s')
    (hclock : Clock.instantOf s'.ms < Span.longest.nanos) : Watched limits s' := by
  cases hs with
  | tryAcquire => exact h.attempt hl fun w hw => .inl ⟨hw, id⟩
  | acquire id =>
    rw [Limiter.acquire_limiter]
    refine h.attempt hl fun w hw => ?_
    split at hw
    · exact .inl ⟨hw, fun hin => hin⟩
    · rename_i hf
      rcases List.mem_append.mp hw with hold | hnew
      · exact .inl ⟨hold, fun hin => hin⟩
      · rw [List.mem_singleton] at hnew
        subst hnew
        exact .inr ⟨by simpa using hf, rfl⟩
  | abandon id =>
    refine ⟨h.limits_eq, h.updated_le, ?_, ?_⟩
    · intro w hw
      exact h.asleep w (List.mem_of_mem_filter hw)
    · intro w hw hout
      have hne : w.id ≠ id := by simpa using List.of_mem_filter hw
      refine h.tried w (List.mem_of_mem_filter hw) fun hin => hout ?_
      exact List.mem_filter.mpr ⟨hin, by simpa using hne⟩
  | retry id =>
    rw [Limiter.retry_limiter]
    have hkept : ∀ w : Waiter, w.id ≠ id → w.id ∈ s.due → w.id ∈ s.due.filter (· ≠ id) :=
      fun w hne hin => List.mem_filter.mpr ⟨hin, by simpa using hne⟩
    refine h.attempt hl fun w hw => ?_
    split at hw
    · have hne : w.id ≠ id := by simpa using List.of_mem_filter hw
      exact .inl ⟨List.mem_of_mem_filter hw, hkept w hne⟩
    · rename_i hf
      obtain ⟨v, hv, rfl⟩ := List.mem_map.mp hw
      rw [Limiter.again]
      split
      · exact .inr ⟨by simpa using hf, rfl⟩
      · rename_i hne
        exact .inl ⟨hv, hkept v hne⟩
  | tick hidle =>
    -- Whoever is not due at the next millisecond is asleep there.
    refine ⟨h.limits_eq, h.updated_le.trans (Nat.mul_le_mul_right _ (Nat.le_succ _)), ?_, ?_⟩
    · intro w hw m hm
      exact h.asleep w hw m (Nat.le_of_succ_le hm)
    · intro w hw hout
      refine h.asleep w hw (s.ms + 1) (Nat.le_succ _) hclock ?_
      by_contra hdue
      rw [Bool.not_eq_false] at hdue
      exact hout (List.mem_map_of_mem (List.mem_filter.mpr ⟨hw, hdue⟩))

theorem Step.ms_le {α : Type} [TokenArithmetic α] {s s' : Moment α} (h : Step s s') :
    s.ms ≤ s'.ms := by
  cases h with
  | tick => exact Nat.le_succ _
  | _ => exact le_rfl

/-- Everybody who waits is watched in every run, as long as the clock lasts. -/
theorem watched_of_steps (hl : limits.Valid) {ms : Nat}
    (h : ReflTransGen Step (start limits ms) s)
    (hclock : Clock.instantOf s.ms < Span.longest.nanos) : Watched limits s := by
  induction h with
  | refl => exact watched_start limits ms
  | tail _ hstep ih =>
    have hmono : Clock.instantOf _ ≤ Clock.instantOf _ := Nat.mul_le_mul_right _ hstep.ms_le
    exact (ih (lt_of_le_of_lt hmono hclock)).step hl hstep hclock

/-! ### Letting time pass -/

/-- Nobody's timer runs off before the next one does. -/
theorem nextWake_le {α : Type} {l : Limiter α} {w : Waiter} (hw : w ∈ l.waiters) {k : Nat}
    (hdue : Limiter.isDue k w = true) : ∃ e, l.nextWake = some e ∧ e ≤ k := by
  obtain ⟨x, hx, hxk⟩ := (Option.any_eq_true _ _).mp hdue
  have hmem : some x ∈ l.waiters.map (·.wakesAt) := by
    rw [← hx]
    exact List.mem_map_of_mem hw
  obtain ⟨e, he, hex⟩ := Clock.earliest_le hmem
  exact ⟨e, he, hex.trans (of_decide_eq_true hxk)⟩

section

variable {α : Type} [TokenArithmetic α]

/-- Waiters that are due try again in turn. -/
theorem retryAll_steps (ms : Nat) (ids due : List RequestId) (l : Limiter α) :
    ReflTransGen Step ⟨ms, l, due⟩
      ⟨ms, (Limiter.retryAll (Clock.instantOf ms) ids l).1, due.filter (· ∉ ids)⟩ := by
  induction ids generalizing l due with
  | nil => simpa [Limiter.retryAll] using ReflTransGen.refl
  | cons id ids ih =>
    have hrest := ih (due.filter (· ≠ id)) (l.retry id (Clock.instantOf ms)).2
    rw [List.filter_filter] at hrest
    refine ReflTransGen.head (Step.retry ⟨ms, l, due⟩ id) ?_
    simpa [Limiter.retryAll, Bool.and_comm] using hrest

theorem settle_steps (ms : Nat) (l : Limiter α) :
    ReflTransGen Step ⟨ms, l, (l.waiters.filter (Limiter.isDue ms)).map (·.id)⟩
      ⟨ms, (l.settle ms).1, []⟩ := by
  rw [Limiter.settle]
  generalize (l.waiters.filter (Limiter.isDue ms)).map (·.id) = ids
  have hnone : ids.filter (· ∉ ids) = [] := by
    rw [List.filter_eq_nil_iff]
    simp
  have hsteps := retryAll_steps ms ids ids l
  rwa [hnone] at hsteps

/-- Nothing happens while nobody's timer runs off. -/
theorem idle_steps {ms m : Nat} (hle : ms ≤ m) {l : Limiter α}
    (hidle : ∀ k, ms < k → k ≤ m → ∀ w ∈ l.waiters, Limiter.isDue k w = false) :
    ReflTransGen Step ⟨ms, l, []⟩ ⟨m, l, []⟩ := by
  induction m, hle using Nat.le_induction with
  | base => exact .refl
  | succ m hle ih =>
    refine (ih fun k hk hkm => hidle k hk (Nat.le_succ_of_le hkm)).tail ?_
    have hnone : (l.waiters.filter (Limiter.isDue (m + 1))).map (·.id) = [] := by
      rw [List.map_eq_nil_iff, List.filter_eq_nil_iff]
      intro w hw
      simp [hidle (m + 1) (Nat.lt_succ_of_le hle) le_rfl w hw]
    have hstep := Step.tick ⟨m, l, []⟩ rfl
    rwa [hnone] at hstep

/-- Letting time pass is a run in which the clock moves on and everybody who is due tries
again. -/
theorem advance_steps {now target : Nat} (hle : now ≤ target) (l : Limiter α) :
    ReflTransGen Step ⟨now, l, []⟩ ⟨target, (l.advance now target).1, []⟩ := by
  refine Clock.pass_induct (motive := fun now l result =>
    ReflTransGen Step ⟨now, l, []⟩ ⟨target, result.1, []⟩) (fun _ => .refl) ?_ hle l
  intro now t l rest hnow _ hbetween hrest
  have hidle : ∀ k, now < k → k ≤ t - 1 → ∀ w ∈ l.waiters, Limiter.isDue k w = false := by
    intro k hk hkt w hw
    by_contra hdue
    rw [Bool.not_eq_false] at hdue
    obtain ⟨e, he, hek⟩ := nextWake_le hw hdue
    have hlt := hbetween k e hk (by omega) he
    omega
  -- Up to the turn nobody is due, and with it the clock ticks once more.
  have htick := Step.tick ⟨t - 1, l, []⟩ rfl
  rw [show t - 1 + 1 = t by omega] at htick
  exact (((idle_steps (by omega) hidle).tail htick).trans (settle_steps t l)).trans hrest

end

/-- **No waiter sleeps past a token.** Whenever somebody waits and all that is due has tried
again, an attempt would be refused. -/
theorem refused_of_waiting (hl : limits.Valid) {ms : Nat}
    (h : ReflTransGen Step (start limits ms) s)
    (hclock : Clock.instantOf s.ms < Span.longest.nanos) (hdone : s.due = [])
    (hwaiting : s.limiter.waiters ≠ []) :
    (s.limiter.tryAcquire (Clock.instantOf s.ms)).1 = false := by
  -- Nobody is due, so any waiter tells that the level is below one.
  have hwatched := watched_of_steps hl h hclock
  obtain ⟨w, hw⟩ := List.exists_mem_of_ne_nil _ hwaiting
  have hlevel := hwatched.tried w hw (by rw [hdone]; exact List.not_mem_nil)
  rw [← hwatched.limits_eq] at hlevel
  exact Bucket.tryTake_eq_false_iff.mpr hlevel

/-- Two that wait for a token of 1 2/3 ms wake together after two. The first one takes it,
the second one sleeps again, and a third attempt finds nothing. -/
theorem refused_after_shared_wake :
    let limits : Limits ℚ := ⟨1, 600⟩
    ∃ s : Moment ℚ, limits.Valid ∧ ReflTransGen Step (start limits 0) s ∧ s.ms = 2 ∧
      s.due = [] ∧ s.limiter.waiters = [⟨2, some 4⟩] ∧
      (s.limiter.tryAcquire (Clock.instantOf s.ms)).1 = false := by
  intro limits
  have hl : limits.Valid := ⟨by decide +kernel, by decide +kernel⟩
  have hrun := (((((((ReflTransGen.refl.tail (Step.acquire (start limits 0) 0)).tail
    (Step.acquire _ 1)).tail (Step.acquire _ 2)).tail (Step.tick _ rfl)).tail
    (Step.tick _ (by decide +kernel))).tail (Step.retry _ 1)).tail (Step.retry _ 2))
  refine ⟨_, hl, hrun, by decide +kernel, by decide +kernel, by decide +kernel, ?_⟩
  exact refused_of_waiting hl hrun (by decide +kernel) (by decide +kernel) (by decide +kernel)

end Moment

end ClusterAgent
