/-
How many requests leave for the control plane in a window of time.

A request draws its token first and then waits for its service.  What the limiter
bounds are the draws; a request leaves when its service is ready, which may be
much later.  So the requests that leave in a window are those that drew in it and
those that were held up when it began.

* `RequestLayer.Step` — what may happen to the requests at an instant, in any
  order and by any part of the queue;
* `RequestLayer.Run` — steps one after the other while time passes;
* `RequestRun.send_run`, `RequestRun.advance_run` — sending a request and letting time
  pass with scripted replies are such runs;
* `RequestLayer.Step.balance` — a request enters the queue for a token, and leaves
  from the queue only;
* `RequestLayer.departures_le_backlog` — the bound on a window, counting those held
  up at its beginning;
* `RequestLayer.departures_exceed_envelope` — without them there is no such bound.

Design notes: the sum of the requests that left, those in the queue and the level
of the bucket is what no step raises, and what time raises by the rate.  Requests
that fail or are dropped only lower it.
-/
import ClusterAgent.Client.Requests
import ClusterAgent.Proofs.Rate.Draws
import ClusterAgent.Proofs.Time.Passing
import Mathlib.Data.List.Perm.Subperm

namespace ClusterAgent

/-- Whether a request reaches its service. -/
def RequestEvent.isReached : RequestEvent → Bool
  | .reached _ => true
  | _ => false

namespace RequestLayer

/-- How many requests reach their services. -/
def departures (events : List RequestEvent) : Nat := events.countP RequestEvent.isReached

theorem departures_append (es fs : List RequestEvent) :
    departures (es ++ fs) = departures es + departures fs := List.countP_append

theorem departures_notices (ns : List Notice) :
    departures (ns.map RequestEvent.notice) = 0 := by
  rw [departures, List.countP_eq_zero]
  intro e he
  obtain ⟨n, -, rfl⟩ := List.mem_map.mp he
  exact Bool.false_ne_true

theorem departures_accounted (c : Call) (since now : Instant) (r : Reply) :
    departures (accounted c since now r) = 0 := rfl

/-! ### Steps -/

section

variable {α : Type} [TokenArithmetic α]

/-- What may happen to the requests at an instant, with what is seen of it. Waiting requests
draw again and queued ones meet their services in any order and number. -/
inductive Step (now : Instant) : RequestLayer α → List RequestEvent → RequestLayer α → Prop
  | send (l : RequestLayer α) (c : Call) (fresh : c.id ∉ l.drawing.map (·.id)) :
      Step now l (l.send c now).2 (l.send c now).1
  | redraw (l : RequestLayer α) (ids : List RequestId) :
      Step now l [] ({ l with limiter := (Limiter.retryAll now ids l.limiter).1 }.drawn
        (Limiter.retryAll now ids l.limiter).2 now)
  | serve (l : RequestLayer α) (before part after : List (Call × Instant))
      (h : l.queued = before ++ part ++ after) :
      Step now l (dispatchAll l.readiness now part).2.2
        { l with
          queued := before ++ (dispatchAll l.readiness now part).1 ++ after
          sent := l.sent ++ (dispatchAll l.readiness now part).2.1 }
  | reply (l : RequestLayer α) (id : RequestId) (r : Reply) :
      Step now l (l.reply id r now).2 (l.reply id r now).1
  | cancel (l : RequestLayer α) (id : RequestId) : Step now l [] (l.cancel id)
  | setReadiness (l : RequestLayer α) (service : Nat) (r : Readiness) :
      Step now l [] (l.setReadiness service r)
  | tryAcquire (l : RequestLayer α) :
      Step now l [] { l with limiter := (l.limiter.tryAcquire now).2 }

theorem wake_step (l : RequestLayer α) (ms : Nat) :
    Step (Clock.instantOf ms) l [] (l.wake ms) :=
  Step.redraw l ((l.limiter.waiters.filter (Limiter.isDue ms)).map (·.id))

theorem dispatch_step (l : RequestLayer α) (now : Instant) :
    Step now l (l.dispatch now).2 (l.dispatch now).1 := by
  have h : Step now l _ _ := .serve l [] l.queued [] (by simp)
  simpa [dispatch] using h

/-- Steps one after the other, from an instant on and up to a later one. -/
inductive Run (s : Instant) (l : RequestLayer α) :
    List RequestEvent → Instant → RequestLayer α → Prop
  | refl : Run s l [] s l
  | wait {t u : Instant} {m : RequestLayer α} {es : List RequestEvent} :
      Run s l es t m → t ≤ u → Run s l es u m
  | step {t : Instant} {m m' : RequestLayer α} {es fs : List RequestEvent} :
      Run s l es t m → Step t m fs m' → Run s l (es ++ fs) t m'

theorem Step.run {now : Instant} {l m : RequestLayer α} {es : List RequestEvent}
    (h : Step now l es m) : Run now l es now m := Run.refl.step h

theorem Run.trans {s t u : Instant} {l m m' : RequestLayer α} {es fs : List RequestEvent}
    (h : Run s l es t m) (h' : Run t m fs u m') : Run s l (es ++ fs) u m' := by
  induction h' with
  | refl => rwa [List.append_nil]
  | wait _ hle ih => exact ih.wait hle
  | step _ hstep ih =>
    rw [← List.append_assoc]
    exact ih.step hstep

end

end RequestLayer

/-! ### Scripted replies -/

namespace RequestRun

open RequestLayer

variable {α : Type} [TokenArithmetic α]

theorem deliver_run (now : Instant) (arriving : List (Nat × RequestId × Reply))
    (l : RequestLayer α) : Run now l (deliver now arriving l).2 now (deliver now arriving l).1 := by
  induction arriving generalizing l with
  | nil => exact .refl
  | cons a arriving ih => exact (Step.reply l a.2.1 a.2.2).run.trans (ih _)

theorem settle_run (ms : Nat) (r : RequestRun α) :
    Run (Clock.instantOf ms) r.layer (settle ms r).2 (Clock.instantOf ms) (settle ms r).1.layer :=
  ((wake_step r.layer ms).run.trans (dispatch_step _ _).run).trans (deliver_run _ _ _)

theorem send_run (ms : Nat) (r : RequestRun α) (c : Call) (s : Script)
    (fresh : c.id ∉ r.layer.drawing.map (·.id)) :
    Run (Clock.instantOf ms) r.layer (r.send ms c s).2 (Clock.instantOf ms)
      (r.send ms c s).1.layer := by
  have hsettle := settle_run ms
    { r with layer := (r.layer.send c (Clock.instantOf ms)).1, scripts := r.scripts ++ [s] }
  exact (Step.send r.layer c fresh).run.trans hsettle

/-- Letting time pass with scripted replies is a run of the requests. -/
theorem advance_run {now target : Nat} (hle : now ≤ target) (r : RequestRun α) :
    Run (Clock.instantOf now) r.layer (r.advance now target).2 (Clock.instantOf target)
      (r.advance now target).1.layer := by
  refine Clock.pass_induct (motive := fun now r result =>
    Run (Clock.instantOf now) r.layer result.2 (Clock.instantOf target) result.1.layer)
    (fun _ => .refl) ?_ hle r
  intro now t r rest hnow _ _ hrest
  have hmono : Clock.instantOf now ≤ Clock.instantOf t := Nat.mul_le_mul_right _ hnow.le
  have hturn := (Run.refl.wait hmono).trans (settle_run t r)
  exact hturn.trans hrest

end RequestRun

namespace RequestLayer

/-! ### What a step counts -/

/-- A dispatch loses no request: what leaves and what stays was there. -/
theorem departures_dispatchAll (readiness : Nat → Readiness) (now : Instant)
    (part : List (Call × Instant)) :
    departures (dispatchAll readiness now part).2.2 + (dispatchAll readiness now part).1.length ≤
      part.length := by
  induction part with
  | nil => exact le_rfl
  | cons q part ih =>
    obtain ⟨c, since⟩ := q
    rcases h : dispatchAll readiness now part with ⟨queued, sent, events⟩
    rw [h] at ih
    dsimp only at ih
    simp only [dispatchAll, h]
    cases readiness c.service with
    | ready =>
      have hone : departures (.reached c :: events) = departures events + 1 :=
        List.countP_cons_of_pos rfl
      simp only [hone, List.length_cons]
      omega
    | failing cause =>
      simp only [departures_append, departures_accounted, List.length_cons]
      omega
    | pending =>
      simp only [List.length_cons]
      omega

/-! ### The balance of a step -/

variable {limits : Limits ℚ} {now : Instant} {l l' : RequestLayer ℚ} {es : List RequestEvent}

/-- Requests that wait for a token under names of their own, over a sound limiter. -/
structure Orderly (limits : Limits ℚ) (l : RequestLayer ℚ) : Prop where
  holds : l.limiter.Holds limits
  distinct : (l.drawing.map (·.id)).Nodup

theorem orderly_new (hl : limits.Valid) (start : Instant) :
    Orderly limits (new (Limiter.new limits start)) :=
  ⟨⟨rfl, Bucket.sound_full hl start⟩, List.nodup_nil⟩

/-- No more requests come to the queue than there are tokens granted. -/
theorem Orderly.drawn_le (h : Orderly limits l) (ids : List RequestId) :
    (l.drawing.filter fun c => ids.contains c.id).length ≤ ids.length := by
  have hnodup : ((l.drawing.filter fun c => ids.contains c.id).map (·.id)).Nodup :=
    (List.filter_sublist.map _).nodup h.distinct
  have hsubset : (l.drawing.filter fun c => ids.contains c.id).map (·.id) ⊆ ids := by
    intro id hid
    obtain ⟨c, hc, rfl⟩ := List.mem_map.mp hid
    simpa using List.of_mem_filter hc
  have hle := (hnodup.subperm hsubset).length_le
  rwa [List.length_map] at hle

/-- Some of those who wait still have names of their own. -/
theorem Orderly.of_sublist (h : Orderly limits l) (hholds : l'.limiter.Holds limits)
    (hsub : l'.drawing.Sublist l.drawing) : Orderly limits l' :=
  ⟨hholds, (hsub.map _).nodup h.distinct⟩

/-- **What no step raises.** The requests that left, those in the queue and the level. -/
theorem Step.balance (hl : limits.Valid) (h : Orderly limits l) (hs : Step now l es l') :
    Orderly limits l' ∧
      (departures es : ℚ) + l'.queued.length + l'.limiter.bucket.level limits now ≤
        l.queued.length + l.limiter.bucket.level limits now := by
  cases hs with
  | send c fresh =>
    -- A token granted is one level less and one request more in the queue.
    have hdrew := h.holds.acquire hl c.id now
    rw [RequestLayer.send]
    rcases hacq : l.limiter.acquire c.id now with ⟨got, limiter, ns⟩
    rw [hacq] at hdrew
    have hlevel := hdrew.level
    cases got
    · refine ⟨⟨hdrew.holds, ?_⟩, ?_⟩
      · show ((l.drawing ++ [c]).map (·.id)).Nodup
        rw [List.map_append, List.nodup_append_comm]
        exact List.nodup_cons.mpr ⟨fresh, h.distinct⟩
      · simp only [Bool.toNat_false, Nat.cast_zero, add_zero] at hlevel
        show (departures (ns.map .notice) : ℚ) + l.queued.length +
          limiter.bucket.level limits now ≤ _
        rw [departures_notices, Nat.cast_zero, zero_add, hlevel]
    · simp only [Bool.toNat_true, Nat.cast_one] at hlevel
      refine ⟨⟨hdrew.holds, h.distinct⟩, ?_⟩
      show (departures (ns.map .notice) : ℚ) + (l.queued ++ [(c, now)]).length +
        limiter.bucket.level limits now ≤ _
      rw [departures_notices, List.length_append, List.length_singleton]
      push_cast
      linarith
  | redraw ids =>
    -- Every grant costs a token, also one to a name that nobody waits under.
    have hdrew := h.holds.retryAll hl ids now
    have hlevel := hdrew.level
    have hcount : ((l.drawing.filter fun c =>
        (Limiter.retryAll now ids l.limiter).2.contains c.id).length : ℚ) ≤
        (Limiter.retryAll now ids l.limiter).2.length := by
      exact_mod_cast h.drawn_le _
    refine ⟨h.of_sublist hdrew.holds List.filter_sublist, ?_⟩
    simp only [drawn, departures, List.countP_nil, List.length_append, List.length_map]
    push_cast
    linarith
  | serve before part after hpart =>
    refine ⟨⟨h.holds, h.distinct⟩, ?_⟩
    have hcount : (departures (dispatchAll l.readiness now part).2.2 : ℚ) +
        (dispatchAll l.readiness now part).1.length ≤ part.length := by
      exact_mod_cast departures_dispatchAll l.readiness now part
    rw [hpart]
    simp only [List.length_append]
    push_cast
    linarith
  | reply id r =>
    rw [RequestLayer.reply]
    split
    · refine ⟨⟨h.holds, h.distinct⟩, ?_⟩
      rw [departures_accounted]
      simp
    · exact ⟨h, by simp [departures]⟩
  | cancel id =>
    refine ⟨h.of_sublist ⟨h.holds.limits_eq, h.holds.sound⟩ List.filter_sublist, ?_⟩
    have hcount : ((l.queued.filter (·.1.id != id)).length : ℚ) ≤ l.queued.length := by
      exact_mod_cast List.length_filter_le _ _
    show (0 : ℚ) + (l.queued.filter (·.1.id != id)).length + l.limiter.bucket.level limits now ≤ _
    linarith
  | setReadiness service r =>
    exact ⟨⟨h.holds, h.distinct⟩, by simp [departures, RequestLayer.setReadiness]⟩
  | tryAcquire =>
    have hdrew := h.holds.tryAcquire hl now
    have hlevel := hdrew.level
    have htoken : (0 : ℚ) ≤ (l.limiter.tryAcquire now).1.toNat := Nat.cast_nonneg _
    refine ⟨⟨hdrew.holds, h.distinct⟩, ?_⟩
    simp only [departures, List.countP_nil]
    push_cast
    linarith

/-! ### The balance of a run -/

theorem Run.le {s t : Instant} (h : Run s l es t l') : s ≤ t := by
  induction h with
  | refl => exact le_rfl
  | wait _ hle ih => exact ih.trans hle
  | step _ _ ih => exact ih

/-- Time adds to the balance what the rate gives. -/
theorem Run.balance (hl : limits.Valid) {s t : Instant} (h : Orderly limits l)
    (hrun : Run s l es t l') :
    Orderly limits l' ∧
      (departures es : ℚ) + l'.queued.length + l'.limiter.bucket.level limits t ≤
        l.queued.length + l.limiter.bucket.level limits s + secondsOf (t - s) * limits.rate := by
  induction hrun with
  | refl => exact ⟨h, by simp [departures, secondsOf_zero]⟩
  | @wait t u m es hrun hle ih =>
    -- Only here the balance grows.
    obtain ⟨hm, hbalance⟩ := ih
    have hgain := Bucket.level_le_add hl.rate_pos.le m.limiter.bucket t u
    refine ⟨hm, ?_⟩
    rw [secondsOf_sub hrun.le hle, add_mul]
    linarith
  | step _ hstep ih =>
    obtain ⟨hm, hbalance⟩ := ih
    obtain ⟨hm', hless⟩ := hstep.balance hl hm
    refine ⟨hm', ?_⟩
    rw [departures_append]
    push_cast
    linarith

/-- **The requests that leave in a window.** Those that leave, and those held up at its end,
are no more than those held up when it begins, the burst, and what the rate gives for its
length. -/
theorem departures_le_backlog (hl : limits.Valid) {start s t : Instant}
    {before during : List RequestEvent} {atStart atEnd : RequestLayer ℚ}
    (hbefore : Run start (new (Limiter.new limits start)) before s atStart)
    (hduring : Run s atStart during t atEnd) :
    (departures during : ℚ) + atEnd.queued.length ≤
      atStart.queued.length + (limits.capacity + limits.rate * secondsOf (t - s)) := by
  obtain ⟨horderly, -⟩ := hbefore.balance hl (orderly_new hl start)
  obtain ⟨hend, hbalance⟩ := hduring.balance hl horderly
  -- The window begins with a full bucket at most and ends without debt.
  have hfull := Bucket.level_le_capacity atStart.limiter.bucket limits s
  have hnonneg := hend.holds.sound.level_nonneg hl t
  rw [mul_comm]
  linarith

/-- Two requests that drew a second apart, with one token and one a second, and a service
that is not ready all the while. -/
def heldUp : RequestLayer ℚ :=
  let l := (new (Limiter.new ⟨1, 1⟩ 0)).setReadiness 0 .pending
  let l := (l.send ⟨0, "GET", "/a", 0⟩ 0).1
  (l.send ⟨1, "GET", "/b", 0⟩ 1000000000).1

theorem heldUp_run : ∃ before, Run 0 (new (Limiter.new ⟨1, 1⟩ 0)) before 1000000000 heldUp :=
  ⟨_, (((Run.refl.step (Step.setReadiness _ 0 .pending)).step
    (Step.send _ ⟨0, "GET", "/a", 0⟩ (by decide))).wait (Nat.zero_le _)).step
    (Step.send _ ⟨1, "GET", "/b", 0⟩ (by decide +kernel))⟩

/-- Three leave within a second: the two that were held up, and one more. -/
theorem departures_after_heldUp :
    ∃ before during atEnd, (⟨1, 1⟩ : Limits ℚ).Valid ∧
      Run 0 (new (Limiter.new ⟨1, 1⟩ 0)) before 1000000000 heldUp ∧
      Run 1000000000 heldUp during 2000000000 atEnd ∧
      departures during = 3 ∧ heldUp.queued.length = 2 ∧
      (departures during : ℚ) + atEnd.queued.length ≤ heldUp.queued.length +
        ((1 : ℚ) + 1 * secondsOf (2000000000 - 1000000000)) := by
  have hl : (⟨1, 1⟩ : Limits ℚ).Valid := ⟨by decide +kernel, by decide +kernel⟩
  obtain ⟨before, hbefore⟩ := heldUp_run
  have hduring := ((((Run.refl.step (Step.setReadiness heldUp 0 .ready)).step
    (dispatch_step _ 1000000000)).wait (show 1000000000 ≤ 2000000000 by decide)).step
    (Step.send _ ⟨2, "GET", "/c", 0⟩ (by decide +kernel))).step (dispatch_step _ 2000000000)
  exact ⟨before, _, _, hl, hbefore, hduring, by decide +kernel, by decide +kernel,
    departures_le_backlog hl hbefore hduring⟩

/-- **No bound without those held up.** The two that drew a second apart leave together, where
the envelope allows for one. -/
theorem departures_exceed_envelope :
    ¬ ∀ (limits : Limits ℚ) (start s t : Instant) (before during : List RequestEvent)
        (atStart atEnd : RequestLayer ℚ), limits.Valid →
        Run start (new (Limiter.new limits start)) before s atStart →
        Run s atStart during t atEnd →
        (departures during : ℚ) ≤ limits.capacity + limits.rate * secondsOf (t - s) := by
  intro hall
  have hl : (⟨1, 1⟩ : Limits ℚ).Valid := ⟨by decide +kernel, by decide +kernel⟩
  obtain ⟨before, hbefore⟩ := heldUp_run
  have hduring := (Run.refl.step (Step.setReadiness heldUp 0 .ready)).step
    (dispatch_step _ 1000000000)
  exact absurd (hall _ _ _ _ _ _ _ _ hl hbefore hduring) (by decide +kernel)

end RequestLayer

end ClusterAgent
