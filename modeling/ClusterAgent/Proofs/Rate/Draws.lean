/-
Draws from the bucket that all requests share.

A limiter reaches its bucket by attempts only: taking a token at once, beginning
to wait and trying again are each one attempt, and differ in what they do to
those who wait.

* `Limiter.acquire_limiter`, `Limiter.retry_limiter` — what is left of the limiter;
* `Limiter.acquire_granted`, `Limiter.retry_granted` — whether there was a token;
* `Limiter.acquire_notices` — what is told of one who has to wait;
* `Limiter.Drew` — a level that is lower by the tokens drawn, which is what an attempt
  leaves (`Limiter.Holds.tryAcquire`) and what several in turn do
  (`Limiter.Holds.retryAll`).
-/
import ClusterAgent.Proofs.Rate.Refill
import ClusterAgent.Rate.Limiter

namespace ClusterAgent.Limiter

/-! ### One attempt each -/

section

variable {α : Type} [TokenArithmetic α]

theorem acquire_granted (l : Limiter α) (id : RequestId) (now : Instant) :
    (l.acquire id now).1 = (l.tryAcquire now).1 := by
  rw [acquire]
  dsimp only
  split
  · rename_i h
    exact h.symm
  · rename_i h
    exact (Bool.eq_false_iff.mpr h).symm

theorem acquire_limiter (l : Limiter α) (id : RequestId) (now : Instant) :
    (l.acquire id now).2.1 = { (l.tryAcquire now).2 with
      waiters := if (l.tryAcquire now).1 then l.waiters
        else l.waiters ++ [⟨id, Clock.runsOffAt now (l.tryAcquire now).2.wait⟩] } := by
  rw [acquire]
  dsimp only
  split <;> rfl

theorem acquire_notices (l : Limiter α) (id : RequestId) (now : Instant) :
    (l.acquire id now).2.2 = if (l.tryAcquire now).1 then []
      else [.measured .clientThrottled, .logged (.requestThrottled (l.tryAcquire now).2.wait)] := by
  rw [acquire]
  dsimp only
  split <;> rfl

/-- A waiter after it tried again in vain. -/
def again (id : RequestId) (wakesAt : Option Nat) (w : Waiter) : Waiter :=
  if w.id = id then { w with wakesAt } else w

theorem retry_limiter (l : Limiter α) (id : RequestId) (now : Instant) :
    (l.retry id now).2 = { (l.tryAcquire now).2 with
      waiters := if (l.tryAcquire now).1 then l.waiters.filter (·.id != id)
        else l.waiters.map (again id (Clock.runsOffAt now (l.tryAcquire now).2.wait)) } := by
  rw [retry]
  dsimp only
  split <;> rfl

theorem retry_granted (l : Limiter α) (id : RequestId) (now : Instant) :
    (l.retry id now).1 = (l.tryAcquire now).1 := by
  rw [retry]
  dsimp only
  split
  · rename_i h
    exact h.symm
  · rename_i h
    exact (Bool.eq_false_iff.mpr h).symm

end

/-! ### Levels -/

variable {limits : Limits ℚ} {l l' : Limiter ℚ}

/-- A limiter that has its limits and a sound bucket. -/
structure Holds (limits : Limits ℚ) (l : Limiter ℚ) : Prop where
  limits_eq : l.limits = limits
  sound : l.bucket.Sound limits

/-- What a draw of some tokens leaves: a level that is lower by their number. -/
structure Drew (limits : Limits ℚ) (now : Instant) (l l' : Limiter ℚ) (n : Nat) : Prop where
  holds : Holds limits l'
  level : l'.bucket.level limits now + n = l.bucket.level limits now

/-- Who waits is not the bucket's business. -/
theorem Drew.of_waiters {now : Instant} {n : Nat} (h : Drew limits now l l' n) (ws : List Waiter) :
    Drew limits now l { l' with waiters := ws } n :=
  ⟨⟨h.holds.limits_eq, h.holds.sound⟩, h.level⟩

theorem Holds.tryAcquire (hl : limits.Valid) (h : Holds limits l) (now : Instant) :
    Drew limits now l (l.tryAcquire now).2 (l.tryAcquire now).1.toNat := by
  obtain ⟨rfl, hsound⟩ := h
  refine ⟨⟨rfl, hsound.tryTake hl now⟩, ?_⟩
  have hself := Bucket.level_tryTake_self l.bucket l.limits now
  show (l.bucket.tryTake l.limits now).2.level l.limits now +
    ((l.bucket.tryTake l.limits now).1.toNat : ℚ) = _
  rw [hself]
  cases (l.bucket.tryTake l.limits now).1 <;> simp

theorem Holds.acquire (hl : limits.Valid) (h : Holds limits l) (id : RequestId) (now : Instant) :
    Drew limits now l (l.acquire id now).2.1 (l.acquire id now).1.toNat := by
  rw [acquire_limiter, acquire_granted]
  exact (h.tryAcquire hl now).of_waiters _

theorem Holds.retry (hl : limits.Valid) (h : Holds limits l) (id : RequestId) (now : Instant) :
    Drew limits now l (l.retry id now).2 (l.retry id now).1.toNat := by
  rw [retry_limiter, retry_granted]
  exact (h.tryAcquire hl now).of_waiters _

/-- Those who try again in turn take as many tokens as there are grants. -/
theorem Holds.retryAll (hl : limits.Valid) (h : Holds limits l) (ids : List RequestId)
    (now : Instant) :
    Drew limits now l (Limiter.retryAll now ids l).1 (Limiter.retryAll now ids l).2.length := by
  induction ids generalizing l with
  | nil => exact ⟨h, by simp [Limiter.retryAll]⟩
  | cons id ids ih =>
    have hfirst := h.retry hl id now
    have hrest := ih hfirst.holds
    refine ⟨hrest.holds, ?_⟩
    rw [← hfirst.level, ← hrest.level, Limiter.retryAll]
    dsimp only
    cases (l.retry id now).1
    · simp
    · simp only [if_true, List.length_cons, Bool.toNat_true]
      push_cast
      ring

end ClusterAgent.Limiter
