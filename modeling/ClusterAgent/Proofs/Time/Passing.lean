/-
How time passes from timer to timer.

The clock does not go through every millisecond: it goes to the next one at which
a timer runs off, and settles the state there.

* `Clock.earliest_le` — the next time is no later than any of the times;
* `Clock.pass_induct` — what holds at the target, and holds earlier when it holds
  after the next turn, holds of any time that passes.
-/
import ClusterAgent.Time.Clock
import Mathlib.Order.Lattice
import Mathlib.Tactic.Set

namespace ClusterAgent.Clock

theorem foldl_earlier_le {x : Nat} (ts : List (Option Nat)) (acc : Option Nat)
    (h : acc = some x ∨ some x ∈ ts) : ∃ e, ts.foldl earlier acc = some e ∧ e ≤ x := by
  induction ts generalizing acc x with
  | nil =>
    rcases h with rfl | hmem
    · exact ⟨x, rfl, le_rfl⟩
    · exact absurd hmem List.not_mem_nil
  | cons t ts ih =>
    -- What is earliest of the first two is no later than either of them.
    have hnext : some x ∈ ts ∨ ∃ y ≤ x, earlier acc t = some y := by
      rcases h with rfl | hmem
      · rcases t with _ | y
        · exact .inr ⟨x, le_rfl, rfl⟩
        · exact .inr ⟨min x y, min_le_left _ _, rfl⟩
      · rcases List.mem_cons.mp hmem with rfl | hmem
        · rcases acc with _ | y
          · exact .inr ⟨x, le_rfl, rfl⟩
          · exact .inr ⟨min y x, min_le_right _ _, rfl⟩
        · exact .inl hmem
    rcases hnext with hmem | ⟨y, hyx, hy⟩
    · exact ih _ (.inr hmem)
    · obtain ⟨e, he, hey⟩ := ih _ (.inl hy)
      exact ⟨e, he, hey.trans hyx⟩

theorem earliest_le {x : Nat} {ts : List (Option Nat)} (h : some x ∈ ts) :
    ∃ e, earliest ts = some e ∧ e ≤ x :=
  foldl_earlier_le ts none (.inr h)

/-- An induction on the turns of the clock. No timer runs off between a turn and the
time before it. -/
theorem pass_induct {σ ε : Type} {next : σ → Option Nat} {settle : Nat → σ → σ × List ε}
    {target : Nat} {motive : Nat → σ → σ × List ε → Prop}
    (done : ∀ s, motive target s (s, []))
    (turn : ∀ now t s rest, now < t → t ≤ target →
      (∀ k e, now < k → k < t → next s = some e → k < e) →
      motive t (settle t s).1 rest → motive now s (rest.1, (settle t s).2 ++ rest.2))
    {now : Nat} (hle : now ≤ target) (s : σ) : motive now s (pass next settle now target s) := by
  -- By induction on the time left, since a turn may take any part of it.
  induction h : target - now using Nat.strong_induction_on generalizing now s with
  | _ n ih =>
    rw [pass]
    by_cases hlt : now < target
    · rw [if_pos hlt]
      set t := max (now + 1) (min target ((next s).getD target)) with ht
      have hnow : now < t := by omega
      have htarget : t ≤ target := by omega
      refine turn now t s _ hnow htarget ?_ (ih (target - t) (by omega) htarget _ rfl)
      intro k e hk hkt he
      rw [he, Option.getD_some] at ht
      omega
    · obtain rfl : now = target := by omega
      rw [if_neg hlt]
      exact done s

end ClusterAgent.Clock
