/-
What is left of somebody's request in the request layer.

Somebody who has one request at a time leaves traces in one place after the other: among
those who wait for a token, in the queue of a service, among those who wait for a reply.
Whatever happens to a request moves the traces of its number only.

* `RequestLayer.send_granted`, `RequestLayer.send_refused` — the two ways to begin;
* `Traces.Underway` — one request is under way, in one of the three places;
* `RequestLayer.traces_retry`, `RequestLayer.traces_handOver` — it stays one as it moves;
* `RequestLayer.traces_reply`, `RequestLayer.traces_cancel` — and nothing is left of it in
  the end;
* `RequestLayer.traces_send_of_ne` and its like — others leave it alone;
* `RequestLayer.wake_cases`, `RequestLayer.dispatch_of_ready` — what is done to all requests
  at once is done to each of them by itself.
-/
import ClusterAgent.Controller.Crew
import ClusterAgent.Proofs.Client.Moves
import ClusterAgent.Proofs.Rate.Draws

namespace ClusterAgent

variable {α : Type} [TokenArithmetic α]

/-! ### Lists with what belongs to somebody -/

section

variable {β : Type} (name : β → RequestId) (id : RequestId) (xs : List β)

/-- Whoever goes by name takes along all or nothing of what belongs to somebody. -/
theorem filter_named (p : RequestId → Bool) (k : RequestId) :
    (xs.filter fun x => p (name x)).filter (name · == k) =
      if p k then xs.filter (name · == k) else [] := by
  rw [List.filter_filter]
  split <;> rename_i hk
  · refine List.filter_congr fun x _ => Bool.and_eq_left_iff_imp.mpr fun hx => ?_
    rw [beq_iff_eq.mp hx, hk]
  · refine List.filter_eq_nil_iff.mpr fun x _ => ?_
    rw [Bool.and_eq_true_iff]
    rintro ⟨hx, hp⟩
    exact hk (beq_iff_eq.mp hx ▸ hp)

theorem filter_own_others : (xs.filter (name · != id)).filter (name · == id) = [] := by
  rw [filter_named name xs (· != id), bne_self_eq_false]
  rfl

theorem filter_other_others {k : RequestId} (h : k ≠ id) :
    (xs.filter (name · != id)).filter (name · == k) = xs.filter (name · == k) := by
  rw [filter_named name xs (· != id), if_pos (bne_iff_ne.mpr h)]

end

namespace Limiter

theorem waiters_tryAcquire (l : Limiter α) (now : Instant) :
    (l.tryAcquire now).2.waiters = l.waiters := rfl

theorem id_again (id : RequestId) (wakesAt : Option Nat) (w : Waiter) :
    (again id wakesAt w).id = w.id := by
  rw [again]
  split <;> rfl

theorem filter_again (id k : RequestId) (wakesAt : Option Nat) (ws : List Waiter) :
    (ws.map (again id wakesAt)).filter (·.id == k) =
      (ws.filter (·.id == k)).map (again id wakesAt) := by
  rw [List.filter_map]
  congr 1
  refine List.filter_congr fun w _ => ?_
  rw [Function.comp_apply, id_again]

end Limiter

/-! ### One request -/

namespace Traces

/-- Nothing is left. -/
def nothing : Traces := ⟨[], [], [], []⟩

/-- One request is under way. -/
inductive Underway : Traces → Prop
  | drawing (w : Waiter) (c : Call) : Underway ⟨[w], [c], [], []⟩
  | queued (q : Call × Instant) : Underway ⟨[], [], [q], []⟩
  | sent (q : Call × Instant) : Underway ⟨[], [], [], [q]⟩

namespace Underway

variable {t : Traces}

theorem waiters_le_one (h : t.Underway) : t.waiters.length ≤ 1 := by
  cases h with
  | drawing w c => exact le_rfl
  | queued q => exact Nat.zero_le _
  | sent q => exact Nat.zero_le _

/-- Who waits for a token does so for a request. -/
theorem drawing_of_waiters (h : t.Underway) (hw : t.waiters ≠ []) : t.drawing ≠ [] := by
  cases h with
  | drawing w c => exact List.cons_ne_nil c []
  | queued q => exact absurd rfl hw
  | sent q => exact absurd rfl hw

theorem of_drawing (h : t.Underway) (hd : t.drawing ≠ []) : ∃ w c, t = ⟨[w], [c], [], []⟩ := by
  cases h with
  | drawing w c => exact ⟨w, c, rfl⟩
  | queued q => exact absurd rfl hd
  | sent q => exact absurd rfl hd

theorem of_queued (h : t.Underway) (hq : t.queued ≠ []) : ∃ q, t = ⟨[], [], [q], []⟩ := by
  cases h with
  | drawing w c => exact absurd rfl hq
  | queued q => exact ⟨q, rfl⟩
  | sent q => exact absurd rfl hq

theorem of_sent (h : t.Underway) (hs : t.sent ≠ []) : ∃ q, t = ⟨[], [], [], [q]⟩ := by
  cases h with
  | drawing w c => exact absurd rfl hs
  | queued q => exact absurd rfl hs
  | sent q => exact ⟨q, rfl⟩

end Underway

end Traces

namespace RequestLayer

variable {l : RequestLayer α} {c : Call} {id : RequestId} {now since : Instant}
  {limiter : Limiter α}

theorem send_granted (h : l.limiter.tryAcquire now = (true, limiter)) :
    l.send c now = ({ l with limiter, queued := l.queued ++ [(c, now)] }, []) := by
  simp [send, Limiter.acquire, h]

theorem send_refused (h : l.limiter.tryAcquire now = (false, limiter)) :
    l.send c now =
      ({ l with
          limiter := { limiter with
            waiters := limiter.waiters ++ [⟨c.id, Clock.runsOffAt now limiter.wait⟩] }
          drawing := l.drawing ++ [c] },
        [.notice (.measured .clientThrottled),
          .notice (.logged (.requestThrottled limiter.wait))]) := by
  simp [send, Limiter.acquire, h]

theorem traces_send (h : l.traces c.id = .nothing) :
    ((l.send c now).1.traces c.id).Underway := by
  obtain ⟨hw, hd, hq, hs⟩ := Traces.mk.inj h
  have hwaiters := Limiter.waiters_tryAcquire l.limiter now
  rcases htry : l.limiter.tryAcquire now with ⟨_ | _, limiter⟩ <;> rw [htry] at hwaiters <;>
    dsimp only at hwaiters
  · rw [send_refused htry]
    simp only [traces, List.filter_append, hwaiters, hw, hd, hq, hs]
    simpa using Traces.Underway.drawing _ c
  · rw [send_granted htry]
    simp only [traces, List.filter_append, hwaiters, hw, hd, hq, hs]
    simpa using Traces.Underway.queued (c, now)

/-- A request that tries again still waits for a token, or has one. -/
theorem traces_retry (h : (l.traces id).Underway) (hd : l.drawing.any (·.id == id) = true) :
    (({ l with limiter := (Limiter.retryAll now [id] l.limiter).1 }.drawn
      (Limiter.retryAll now [id] l.limiter).2 now).traces id).Underway := by
  have hsome : (l.traces id).drawing ≠ [] := by
    obtain ⟨c, hc, hid⟩ := List.any_eq_true.mp hd
    exact List.ne_nil_of_mem (List.mem_filter.mpr ⟨hc, hid⟩)
  obtain ⟨w, c, htraces⟩ := h.of_drawing hsome
  obtain ⟨hw, hd, hq, hs⟩ := Traces.mk.inj htraces
  have hlimiter := Limiter.retry_limiter l.limiter id now
  have hgranted := Limiter.retry_granted l.limiter id now
  rcases hretry : l.limiter.retry id now with ⟨got, limiter⟩
  rw [hretry] at hlimiter hgranted
  dsimp only at hlimiter hgranted
  rw [← hgranted] at hlimiter
  cases got
  · simp only [Limiter.retryAll, hretry, Bool.false_eq_true, if_false, Dispatcher.drawn_none,
      traces, hlimiter, Limiter.filter_again, hw, hd, hq, hs]
    exact .drawing _ c
  · simp only [Limiter.retryAll, hretry, if_true, Dispatcher.drawn_one, traces, hlimiter,
      filter_own_others, List.filter_append, hd, hq, hs]
    have hid : c.id = id := by
      have hmem : c ∈ l.drawing.filter (·.id == id) := by rw [hd]; exact List.mem_singleton_self c
      simpa using (List.mem_filter.mp hmem).2
    simpa [hid] using Traces.Underway.queued (c, now)

omit [TokenArithmetic α] in
theorem traces_of_queued (h : (l.traces id).Underway)
    (hq : l.queued.find? (·.1.id == id) = some (c, since)) :
    c.id = id ∧ l.traces id = ⟨[], [], [(c, since)], []⟩ := by
  have hid : (c.id == id) = true := by simpa using List.find?_some hq
  have hmem : (c, since) ∈ (l.traces id).queued :=
    List.mem_filter.mpr ⟨List.mem_of_find?_eq_some hq, hid⟩
  obtain ⟨q, htraces⟩ := h.of_queued (List.ne_nil_of_mem hmem)
  rw [htraces] at hmem
  rw [htraces, List.mem_singleton.mp hmem]
  exact ⟨beq_iff_eq.mp hid, rfl⟩

omit [TokenArithmetic α] in
theorem traces_handOver (h : (l.traces id).Underway)
    (hq : l.queued.find? (·.1.id == id) = some (c, since)) :
    { l with
      queued := l.queued.filter (·.1.id != id)
      sent := l.sent ++ [(c, since)] }.traces id = ⟨[], [], [], [(c, since)]⟩ := by
  obtain ⟨hid, htraces⟩ := traces_of_queued h hq
  obtain ⟨hw, hd, -, hs⟩ := Traces.mk.inj htraces
  simp only [traces, filter_own_others fun q : Call × Instant => q.1.id, List.filter_append, hw,
    hd, hs]
  simp [hid]

omit [TokenArithmetic α] in
theorem traces_refused (h : (l.traces id).Underway)
    (hq : l.queued.find? (·.1.id == id) = some (c, since)) :
    { l with queued := l.queued.filter (·.1.id != id) }.traces id = .nothing := by
  obtain ⟨-, htraces⟩ := traces_of_queued h hq
  obtain ⟨hw, hd, -, hs⟩ := Traces.mk.inj htraces
  simp only [traces, filter_own_others fun q : Call × Instant => q.1.id, hw, hd, hs]
  rfl

omit [TokenArithmetic α] in
theorem traces_reply (h : (l.traces id).Underway) (hs : l.sent.any (·.1.id == id) = true)
    (r : Reply) : (l.reply id r now).1.traces id = .nothing := by
  obtain ⟨q, hq, hid⟩ := List.any_eq_true.mp hs
  obtain ⟨q', htraces⟩ := h.of_sent (List.ne_nil_of_mem (List.mem_filter.mpr ⟨hq, hid⟩))
  obtain ⟨hw, hd, hq', -⟩ := Traces.mk.inj htraces
  unfold reply
  split
  · simp only [traces, filter_own_others fun q : Call × Instant => q.1.id, hw, hd, hq']
    rfl
  · rename_i hnone
    exact absurd hid (List.find?_eq_none.mp hnone q hq)

omit [TokenArithmetic α] in
theorem traces_cancel (l : RequestLayer α) (id : RequestId) :
    (l.cancel id).traces id = .nothing := by
  simp only [traces, cancel, Limiter.abandon, filter_own_others,
    filter_own_others fun q : Call × Instant => q.1.id]
  rfl

end RequestLayer

/-! ### What others do -/

namespace Limiter

variable {id k : RequestId}

theorem filter_retry_of_ne (l : Limiter α) (h : k ≠ id) (now : Instant) :
    (l.retry id now).2.waiters.filter (·.id == k) = l.waiters.filter (·.id == k) := by
  rw [retry_limiter]
  dsimp only
  split
  · exact filter_other_others Waiter.id id l.waiters h
  · rw [filter_again]
    refine (List.map_congr_left fun w hw => ?_).trans (List.map_id _)
    have hid : w.id = k := by simpa using (List.mem_filter.mp hw).2
    rw [again, if_neg (hid ▸ h)]
    rfl

/-- Those who try again get no token for somebody else. -/
theorem retryAll_of_not_mem {ids : List RequestId} (h : k ∉ ids) (l : Limiter α) (now : Instant) :
    (retryAll now ids l).1.waiters.filter (·.id == k) = l.waiters.filter (·.id == k) ∧
      k ∉ (retryAll now ids l).2 := by
  induction ids generalizing l with
  | nil => exact ⟨rfl, List.not_mem_nil⟩
  | cons id ids ih =>
    obtain ⟨hne, hrest⟩ := List.ne_and_not_mem_of_not_mem_cons h
    obtain ⟨hwaiters, hgranted⟩ := ih hrest (l.retry id now).2
    rw [retryAll]
    refine ⟨hwaiters.trans (l.filter_retry_of_ne hne now), ?_⟩
    dsimp only
    split
    · exact List.not_mem_cons_of_ne_of_not_mem hne hgranted
    · exact hgranted

/-- Somebody who tries again once, among others, tries again by himself at some time in between. -/
theorem retryAll_once {ids : List RequestId} (hk : k ∈ ids) (hone : ids.count k ≤ 1)
    (l : Limiter α) (now : Instant) :
    ∃ before : Limiter α, before.waiters.filter (·.id == k) = l.waiters.filter (·.id == k) ∧
      (retryAll now ids l).1.waiters.filter (·.id == k) =
        (retryAll now [k] before).1.waiters.filter (·.id == k) ∧
      (k ∈ (retryAll now ids l).2 ↔ k ∈ (retryAll now [k] before).2) := by
  induction ids generalizing l with
  | nil => cases hk
  | cons id ids ih =>
    by_cases hid : k = id
    · subst hid
      rw [List.count_cons_self] at hone
      have hrest : k ∉ ids := List.count_eq_zero.mp (by omega)
      obtain ⟨hwaiters, hgranted⟩ := retryAll_of_not_mem hrest (l.retry k now).2 now
      refine ⟨l, rfl, hwaiters, ?_⟩
      simp only [retryAll]
      split
      · simp
      · simp [hgranted]
    · rw [List.count_cons_of_ne (Ne.symm hid)] at hone
      obtain ⟨before, hbefore, hwaiters, hgranted⟩ :=
        ih (List.mem_of_ne_of_mem hid hk) hone (l.retry id now).2
      refine ⟨before, hbefore.trans (l.filter_retry_of_ne hid now), hwaiters, ?_⟩
      rw [← hgranted, retryAll]
      dsimp only
      split
      · exact List.mem_cons.trans (or_iff_right hid)
      · exact Iff.rfl

end Limiter

namespace RequestLayer

variable {l : RequestLayer α} {id k : RequestId} {now : Instant}

theorem traces_send_of_ne (l : RequestLayer α) {c : Call} (h : k ≠ c.id) (now : Instant) :
    (l.send c now).1.traces k = l.traces k := by
  have hwaiters := Limiter.waiters_tryAcquire l.limiter now
  have hne : (c.id == k) = false := by simpa using h.symm
  rcases htry : l.limiter.tryAcquire now with ⟨_ | _, limiter⟩ <;> rw [htry] at hwaiters <;>
    dsimp only at hwaiters
  · rw [send_refused htry]
    simp [traces, hwaiters, hne]
  · rw [send_granted htry]
    simp [traces, hwaiters, hne]

omit [TokenArithmetic α] in
theorem traces_reply_of_ne (l : RequestLayer α) (h : k ≠ id) (r : Reply) (now : Instant) :
    (l.reply id r now).1.traces k = l.traces k := by
  rw [reply]
  split
  · simp only [traces, filter_other_others (fun q : Call × Instant => q.1.id) id _ h]
  · rfl

omit [TokenArithmetic α] in
theorem traces_cancel_of_ne (l : RequestLayer α) (h : k ≠ id) :
    (l.cancel id).traces k = l.traces k := by
  simp only [traces, cancel, Limiter.abandon, filter_other_others Waiter.id id _ h,
    filter_other_others Call.id id _ h,
    filter_other_others (fun q : Call × Instant => q.1.id) id _ h]

/-! ### What is done to all requests -/

omit [TokenArithmetic α] in
/-- Those who got their token go to the queue, with all their calls. -/
theorem traces_drawn (l : RequestLayer α) (ids : List RequestId) (k : RequestId) (now : Instant) :
    (l.drawn ids now).traces k = if k ∈ ids then
      { l.traces k with
        drawing := []
        queued := (l.traces k).queued ++ (l.traces k).drawing.map (·, now) }
    else l.traces k := by
  have hstay := filter_named Call.id l.drawing (fun i => !ids.contains i) k
  have hgo := filter_named Call.id l.drawing (fun i => ids.contains i) k
  simp only [traces, drawn, List.filter_append, List.filter_map, Function.comp_def, hstay, hgo]
  by_cases hk : k ∈ ids <;> simp [hk]

/-- To wake those whose timers ran off leaves a request alone, or has it try again at some time
in between. -/
theorem wake_cases (ms : Nat) (hone : (l.traces k).waiters.length ≤ 1) :
    (l.wake ms).traces k = l.traces k ∨
    (l.traces k).waiters ≠ [] ∧ ∃ limiter : Limiter α,
      { l with limiter }.traces k = l.traces k ∧
      (l.wake ms).traces k =
        ({ l with limiter := (Limiter.retryAll (Clock.instantOf ms) [k] limiter).1 }.drawn
          (Limiter.retryAll (Clock.instantOf ms) [k] limiter).2 (Clock.instantOf ms)).traces k := by
  set now := Clock.instantOf ms
  set due := (l.limiter.waiters.filter (Limiter.isDue ms)).map (·.id) with hdue
  have hwake : l.wake ms = { l with limiter := (Limiter.retryAll now due l.limiter).1 }.drawn
      (Limiter.retryAll now due l.limiter).2 now := rfl
  -- It is among those who are due once at most.
  have hcount : due.count k ≤ 1 := by
    have hfilter : (due.filter (· == k)).length ≤ (l.traces k).waiters.length := by
      rw [hdue, List.filter_map, List.length_map, List.filter_filter, traces]
      exact (List.monotone_filter_right _ fun w hw => (Bool.and_eq_true_iff.mp hw).1).length_le
    rw [List.count_eq_length_filter]
    exact hfilter.trans hone
  by_cases hk : k ∈ due
  · right
    obtain ⟨w, hw, hid⟩ := List.mem_map.mp hk
    have hmem : w ∈ (l.traces k).waiters :=
      List.mem_filter.mpr ⟨(List.mem_filter.mp hw).1, by simpa using hid⟩
    obtain ⟨before, hbefore, hwaiters, hgranted⟩ := Limiter.retryAll_once hk hcount l.limiter now
    refine ⟨List.ne_nil_of_mem hmem, before, ?_, ?_⟩
    · simp only [traces, hbefore]
    · rw [hwake, traces_drawn, traces_drawn]
      simp only [hgranted, traces, hwaiters]
  · left
    obtain ⟨hwaiters, hgranted⟩ := Limiter.retryAll_of_not_mem hk l.limiter now
    rw [hwake, traces_drawn, if_neg hgranted]
    simp only [traces, hwaiters]

omit [TokenArithmetic α] in
theorem dispatchAll_of_ready {readiness : Nat → Readiness} (h : ∀ i, readiness i = .ready)
    (now : Instant) (qs : List (Call × Instant)) :
    dispatchAll readiness now qs = ([], qs, qs.map fun q => .reached q.1) := by
  induction qs with
  | nil => rfl
  | cons q qs ih => simp [dispatchAll, ih, h]

omit [TokenArithmetic α] in
/-- If all services are ready, everything is handed over. -/
theorem dispatch_of_ready (h : ∀ i, l.readiness i = .ready) (now : Instant) :
    l.dispatch now = ({ l with queued := [], sent := l.sent ++ l.queued },
      l.queued.map fun q => .reached q.1) := by
  rw [dispatch, dispatchAll_of_ready h]

omit [TokenArithmetic α] in
theorem traces_dispatch_of_ready (h : ∀ i, l.readiness i = .ready) (now : Instant) :
    (l.dispatch now).1.traces k = { l.traces k with
      queued := [], sent := (l.traces k).sent ++ (l.traces k).queued } := by
  rw [dispatch_of_ready h]
  simp only [traces, List.filter_append, List.filter_nil]

/-! ### Services -/

theorem readiness_send (l : RequestLayer α) (c : Call) (now : Instant) :
    (l.send c now).1.readiness = l.readiness := by
  rw [send]
  dsimp only
  split <;> rfl

/-- A request is sent unless that was done already. -/
def sendUnless (l : RequestLayer α) (asked : Bool) (c : Call) (now : Instant) :
    RequestLayer α × List RequestEvent :=
  if asked then (l, []) else l.send c now

theorem readiness_sendUnless (l : RequestLayer α) (asked : Bool) (c : Call) (now : Instant) :
    (l.sendUnless asked c now).1.readiness = l.readiness := by
  cases asked with
  | true => rfl
  | false => exact l.readiness_send c now

theorem traces_sendUnless_of_ne (l : RequestLayer α) (asked : Bool) {c : Call} (h : k ≠ c.id)
    (now : Instant) : (l.sendUnless asked c now).1.traces k = l.traces k := by
  cases asked with
  | true => rfl
  | false => exact l.traces_send_of_ne h now

omit [TokenArithmetic α] in
theorem readiness_reply (l : RequestLayer α) (id : RequestId) (r : Reply) (now : Instant) :
    (l.reply id r now).1.readiness = l.readiness := by
  rw [reply]
  split <;> rfl

omit [TokenArithmetic α] in
theorem queued_reply (l : RequestLayer α) (id : RequestId) (r : Reply) (now : Instant) :
    (l.reply id r now).1.queued = l.queued := by
  rw [reply]
  split <;> rfl

end RequestLayer

end ClusterAgent
