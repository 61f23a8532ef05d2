/-
Those who hold the limiter.

The services of clients and the clock reach the limiter by the same few actions as
everybody else.  So a run of requests, and time that passes, are runs of the limiter,
and what is conserved in all of those is conserved here.

* `LimiterRun.run_wakes` — waiters that try again in turn;
* `LimiterRun.advance_comes` — time that passes is a run of the limiter;
* `Dispatcher.run_taken` — and so are requests on their way, whatever happens to them.

Design notes: a limiter lets anybody try again at any time, and the clock only those who are
due, so there is nothing to prove about timers here.
-/
import ClusterAgent.Proofs.Client.Accounts
import ClusterAgent.Proofs.Rate.Conservation
import ClusterAgent.Proofs.Time.Passing

namespace ClusterAgent

variable {α : Type} [TokenArithmetic α]

namespace LimiterRun

/-! ### Time -/

/-- What is left of those who wait when one of them tries again. -/
theorem ids_retry (l : Limiter α) (id : RequestId) (now : Instant) :
    (l.retry id now).2.waiters.map (·.id) =
      if (l.retry id now).1 then (l.waiters.map (·.id)).filter (· != id)
      else l.waiters.map (·.id) := by
  rw [Limiter.retry_limiter, Limiter.retry_granted]
  split
  · exact ids_abandon ..
  · exact ids_again ..

/-- Waiters that try again in turn. -/
theorem run_wakes (now : Instant) (fresh : RequestId) {ids : List RequestId} (hids : ids.Nodup)
    {l : Limiter α} (hall : ∀ id ∈ ids, id ∈ l.waiters.map (·.id)) :
    ∃ es, (⟨l, fresh⟩ : LimiterRun α).run (ids.map fun id => (now, .wake id)) =
        (⟨(Limiter.retryAll now ids l).1, fresh⟩, es) ∧
      completed es = (Limiter.retryAll now ids l).2 := by
  induction ids generalizing l with
  | nil => exact ⟨[], rfl, rfl⟩
  | cons id ids ih =>
    obtain ⟨hnew, hrest⟩ := List.nodup_cons.mp hids
    have hwaits : (⟨l, fresh⟩ : LimiterRun α).isWaiting id :=
      (isWaiting_iff _ id).mpr (hall id List.mem_cons_self)
    -- The others wait on, whether or not this one has its token.
    have hothers : ∀ other ∈ ids, other ∈ (l.retry id now).2.waiters.map (·.id) := by
      intro other hother
      have hne : other ≠ id := fun h => hnew (h ▸ hother)
      have hmem := hall other (List.mem_cons_of_mem id hother)
      rw [ids_retry]
      split
      · exact List.mem_filter.mpr ⟨hmem, by simpa using hne⟩
      · exact hmem
    obtain ⟨es, hrun, htold⟩ := ih hrest hothers
    rw [completed] at htold
    refine ⟨(.asked (some id) now :: outcome id (l.retry id now).1) ++ es, ?_, ?_⟩
    · rw [List.map_cons, run, step, if_pos hwaits]
      dsimp only
      rw [hrun]
      rfl
    · rw [completed, List.filterMap_append, htold, Limiter.retryAll]
      cases hgot : (l.retry id now).1 <;> simp [outcome, List.filterMap_cons, hgot]

/-- Those who wait are not more after they tried again. -/
theorem ids_retryAll (now : Instant) (ids : List RequestId) (l : Limiter α) :
    ((Limiter.retryAll now ids l).1.waiters.map (·.id)).Sublist (l.waiters.map (·.id)) := by
  induction ids generalizing l with
  | nil => exact List.Sublist.refl _
  | cons id ids ih =>
    refine (ih (l.retry id now).2).trans ?_
    rw [ids_retry]
    split
    · exact List.filter_sublist
    · exact List.Sublist.refl _

/-- A limiter comes to another one by a run, and whoever is told has a token in it. -/
def Comes (fresh : RequestId) (l : Limiter α) (r : Limiter α × List RequestId) : Prop :=
  ∃ acts es, (⟨l, fresh⟩ : LimiterRun α).run acts = (⟨r.1, fresh⟩, es) ∧ completed es = r.2

theorem settle_comes (fresh : RequestId) (t : Nat) {l : Limiter α}
    (hids : (l.waiters.map (·.id)).Nodup) : Comes fresh l (l.settle t) := by
  have hdue : ((l.waiters.filter (Limiter.isDue t)).map (·.id)).Sublist (l.waiters.map (·.id)) :=
    List.filter_sublist.map _
  obtain ⟨es, hrun, htold⟩ := run_wakes (Clock.instantOf t) fresh (hids.sublist hdue)
    fun id hid => hdue.subset hid
  exact ⟨_, es, hrun, htold⟩

/-- **Time that passes is a run of the limiter.** Whoever is told to have a token is done
waiting. -/
theorem advance_comes (fresh : RequestId) {now target : Nat} (hle : now ≤ target) {l : Limiter α}
    (hids : (l.waiters.map (·.id)).Nodup) : Comes fresh l (l.advance now target) := by
  revert hids
  -- By induction on the turns of the clock: at each, those who are due try again.
  refine Clock.pass_induct
    (motive := fun _ (l : Limiter α) r => (l.waiters.map (·.id)).Nodup → Comes fresh l r)
    ?done ?turn hle l
  case done => exact fun l _ => ⟨[], [], rfl, rfl⟩
  case turn =>
    intro now t l rest _ _ _ ih hids
    obtain ⟨acts, es, hrun, htold⟩ := settle_comes fresh t hids
    obtain ⟨acts', es', hrun', htold'⟩ := ih (hids.sublist (ids_retryAll ..))
    refine ⟨acts ++ acts', es ++ es', ?_, ?_⟩
    · rw [run_append, hrun]
      dsimp only
      rw [hrun']
    · rw [completed, List.filterMap_append]
      exact congrArg₂ (· ++ ·) htold htold'

end LimiterRun

namespace Dispatcher

/-! ### Requests -/

/-- What an action on requests does to the limiter. -/
def Action.draws : Action → List LimiterRun.Action
  | .send c => [.acquire c.id]
  | .retry id => [.wake id]
  | .cancel id => [.abort id]
  | .tryAcquire => [.tryAcquire]
  | _ => []

/-- What actions on requests do to the limiter, each at its instant. -/
def draws (acts : List (Instant × Action)) : List (Instant × LimiterRun.Action) :=
  acts.flatMap fun act => act.2.draws.map (act.1, ·)

/-- The limiter of the requests. -/
def taken (d : Dispatcher α) : LimiterRun α := ⟨d.layer.limiter, d.fresh⟩

/-- What is the same in a run of requests and in one of their limiter. -/
structure Taken (d : Dispatcher α) (es : List Event) (r : LimiterRun α × List LimiterRun.Event) :
    Prop where
  taken : d.taken = r.1
  waits : d.layer.limiter.waiters.map (·.id) = d.layer.drawing.map (·.id)
  began : LimiterRun.began r.2 = (Dispatcher.began es).map (·.id)
  drew : LimiterRun.completed r.2 = Dispatcher.drew es

omit [TokenArithmetic α] in
theorem isWaiting_taken {d : Dispatcher α}
    (h : d.layer.limiter.waiters.map (·.id) = d.layer.drawing.map (·.id)) (id : RequestId) :
    d.taken.isWaiting id = d.layer.drawing.any (·.id == id) := by
  have hany := congrArg (·.any (· == id)) h
  rw [List.any_map, List.any_map] at hany
  exact hany

theorem send_taken {d : Dispatcher α}
    (h : d.layer.limiter.waiters.map (·.id) = d.layer.drawing.map (·.id)) (now : Instant)
    (c : Call) :
    Taken (d.send c now).1 (d.send c now).2 (d.taken.step now (.acquire c.id)) := by
  have hlimiter := Limiter.acquire_limiter d.layer.limiter c.id now
  rw [← Limiter.acquire_granted] at hlimiter
  rw [LimiterRun.step, send, RequestLayer.send, show d.taken.fresh = d.fresh from rfl,
    show d.taken.limiter = d.layer.limiter from rfl]
  split
  · exact ⟨rfl, h, rfl, rfl⟩
  · rcases hacq : d.layer.limiter.acquire c.id now with ⟨got, limiter, ns⟩
    rw [hacq] at hlimiter
    have hwaits := congrArg (·.waiters.map (·.id)) hlimiter
    cases got
    · refine ⟨rfl, by simpa [h] using hwaits, ?_, ?_⟩ <;>
        simp [LimiterRun.outcome, List.filterMap_cons, Function.comp_def]
    · refine ⟨rfl, by simpa [h] using hwaits, ?_, ?_⟩ <;>
        simp [LimiterRun.outcome, List.filterMap_cons, Function.comp_def]

theorem retry_taken {d : Dispatcher α}
    (h : d.layer.limiter.waiters.map (·.id) = d.layer.drawing.map (·.id)) (now : Instant)
    (id : RequestId) :
    Taken (d.retry id now).1 (d.retry id now).2 (d.taken.step now (.wake id)) := by
  have hids := LimiterRun.ids_retry d.layer.limiter id now
  rw [LimiterRun.step, isWaiting_taken h, retry]
  split
  · simp only [Limiter.retryAll, taken]
    rcases hretry : d.layer.limiter.retry id now with ⟨got, limiter⟩
    rw [hretry, h] at hids
    cases got
    · simp only [Bool.false_eq_true, if_false, drawn_none]
      exact ⟨rfl, hids, rfl, rfl⟩
    · simp only [if_true, drawn_one]
      refine ⟨rfl, ?_, rfl, rfl⟩
      rw [if_pos rfl] at hids
      exact hids.trans (List.filter_map ..)
  · exact ⟨rfl, h, rfl, rfl⟩

theorem cancel_taken {d : Dispatcher α}
    (h : d.layer.limiter.waiters.map (·.id) = d.layer.drawing.map (·.id)) (now : Instant)
    (id : RequestId) :
    Taken (d.cancel id).1 (d.cancel id).2 (d.taken.step now (.abort id)) := by
  have hleft : (d.cancel id).1.layer.limiter.waiters.map (·.id) =
      (d.cancel id).1.layer.drawing.map (·.id) := by
    have hfilter := congrArg (·.filter (· != id)) h
    rw [List.filter_map, List.filter_map] at hfilter
    exact hfilter
  have hbegan : began (d.cancel id).2 = [] := by
    rw [cancel]
    dsimp only
    split <;> rfl
  have hdrew := drew_cancel d id
  rw [LimiterRun.step, isWaiting_taken h]
  split
  · refine ⟨rfl, hleft, ?_, ?_⟩
    · rw [hbegan]
      rfl
    · rw [hdrew]
      rfl
  · -- Who does not wait for a token leaves the limiter as it is.
    rename_i hnone
    have hsame : (d.layer.limiter.abandon id).waiters = d.layer.limiter.waiters := by
      rw [← isWaiting_taken h] at hnone
      simpa [LimiterRun.isWaiting, Limiter.abandon, taken] using hnone
    refine ⟨?_, hleft, ?_, ?_⟩
    · show (⟨{ d.layer.limiter with waiters := (d.layer.limiter.abandon id).waiters }, d.fresh⟩ :
        LimiterRun α) = d.taken
      rw [hsame]
      rfl
    · rw [hbegan]
      rfl
    · rw [hdrew]
      rfl

theorem step_taken {d : Dispatcher α}
    (h : d.layer.limiter.waiters.map (·.id) = d.layer.drawing.map (·.id)) (now : Instant)
    (a : Action) :
    Taken (d.step now a).1 (d.step now a).2 (d.taken.run (draws [(now, a)])) := by
  cases a with
  | send c =>
    show Taken (d.send c now).1 (d.send c now).2 (d.taken.run [(now, .acquire c.id)])
    rw [LimiterRun.run_one]
    exact send_taken h now c
  | retry id =>
    show Taken (d.retry id now).1 (d.retry id now).2 (d.taken.run [(now, .wake id)])
    rw [LimiterRun.run_one]
    exact retry_taken h now id
  | ask id =>
    show Taken (d.ask id) [] (d.taken, [])
    rw [ask_eq]
    exact ⟨rfl, h, rfl, rfl⟩
  | check id =>
    show Taken (d.check id now).1 (d.check id now).2 (d.taken, [])
    rcases check_cases d id now with h' | ⟨c, since, -, -, -, ⟨-, h'⟩ | ⟨cause, -, h'⟩⟩ <;>
      rw [h'] <;>
      exact ⟨rfl, h, rfl, rfl⟩
  | reply id r =>
    show Taken (d.reply id r now).1 (d.reply id r now).2 (d.taken, [])
    simp only [reply, RequestLayer.reply]
    cases d.layer.sent.find? (·.1.id == id) <;> exact ⟨rfl, h, rfl, rfl⟩
  | cancel id =>
    show Taken (d.cancel id).1 (d.cancel id).2 (d.taken.run [(now, .abort id)])
    rw [LimiterRun.run_one]
    exact cancel_taken h now id
  | setReadiness service r => exact ⟨rfl, h, rfl, rfl⟩
  | tryAcquire => exact ⟨rfl, h, rfl, rfl⟩

/-- **Requests are holders like any others.** Whatever happens to requests that are on their way
does to the limiter what a run of its own does, and to the requests what it does to those who
wait. -/
theorem run_taken (limiter : Limiter α) (hnone : limiter.waiters = [])
    (acts : List (Instant × Action)) :
    Taken ((new limiter).run acts).1 ((new limiter).run acts).2
      ((⟨limiter, 0⟩ : LimiterRun α).run (draws acts)) := by
  induction acts using List.reverseRecOn with
  | nil => exact ⟨rfl, congrArg _ hnone, rfl, rfl⟩
  | append_singleton acts act ih =>
    have hstep := step_taken ih.waits act.1 act.2
    rw [ih.taken] at hstep
    have hdraws : draws (acts ++ [act]) = draws acts ++ draws [act] := List.flatMap_append
    rw [run_append, hdraws, LimiterRun.run_append]
    have hbegan := congrArg₂ (· ++ ·) ih.began hstep.began
    have hdrew := congrArg₂ (· ++ ·) ih.drew hstep.drew
    refine ⟨?_, ?_, ?_, ?_⟩
    · simpa [run] using hstep.taken
    · simpa [run] using hstep.waits
    · simpa [run] using hbegan
    · simpa [run] using hdrew

end Dispatcher

end ClusterAgent
