/-
What a request with a token waits for.

A request that drew its token asks for the lock of its service, and whoever holds the
lock asks whether the service is ready.  The lock passes on when a request is handed
over, when its check fails and when it is dropped, so a request stays in the queue
only while its service is neither ready nor failing.

* `Dispatcher.InLine` — at each lock stand requests that wait for its service, each
  once;
* `Dispatcher.InLine.step` — every action keeps this;
* `Dispatcher.Quiet` — all has been done that requests with tokens can do by themselves;
* `Dispatcher.InLine.pending` — then every one of them waits for a service whose check
  is pending;
* `Dispatcher.todo_poll`, `Dispatcher.InLine.settles` — it takes no more than what they do by
  themselves to get there, and not for ever;
* `Dispatcher.check_setLock`, `Dispatcher.ask_setLock` — the lock of another service
  changes nothing;
* `Dispatcher.dispatch_waits_for_readiness` — all of this for every run.

Design notes: replies do not occur.  A request that was handed over is in no line, so
nothing below looks at the requests that wait for a reply.
-/
import ClusterAgent.Proofs.Client.Accounts

namespace ClusterAgent.Dispatcher

section

variable {α : Type} {d d' : Dispatcher α} {now : Instant} {id : RequestId}

/-! ### Who stands in line -/

/-- The requests with tokens have names of their own. -/
def Named (d : Dispatcher α) : Prop := (d.layer.queued.map (·.1.id)).Nodup

/-- At each lock stand requests that wait for its service, each once. -/
structure InLine (d : Dispatcher α) : Prop where
  once : ∀ k, (d.locks k).queue.Nodup
  waits : ∀ k, ∀ id ∈ (d.locks k).queue, ∃ q ∈ d.layer.queued, q.1.id = id ∧ q.1.service = k

theorem Named.eq_of_id (h : Named d) {q q' : Call × Instant} (hq : q ∈ d.layer.queued)
    (hq' : q' ∈ d.layer.queued) (hid : q.1.id = q'.1.id) : q = q' :=
  List.inj_on_of_nodup_map h hq hq' hid

theorem Named.queued? (h : Named d) {q : Call × Instant} (hq : q ∈ d.layer.queued) :
    d.queued? q.1.id = some q := by
  cases hfind : d.queued? q.1.id with
  | none => simpa using List.find?_eq_none.mp hfind q hq
  | some q' =>
    obtain ⟨hmem, hid⟩ := queued?_eq_some hfind
    exact congrArg some (h.eq_of_id hmem hq hid)

/-- More requests with tokens change nothing in the lines. -/
theorem InLine.of_subset (h : InLine d) (hlocks : d'.locks = d.locks)
    (hqueued : d.layer.queued ⊆ d'.layer.queued) : InLine d' where
  once k := hlocks ▸ h.once k
  waits k id hid := by
    rw [hlocks] at hid
    obtain ⟨q, hq, hid⟩ := h.waits k id hid
    exact ⟨q, hqueued hq, hid⟩

/-- The next one holds the lock when its holder leaves the queue. -/
theorem InLine.pass (h : InLine d) (names : Named d) {c : Call} {since : Instant}
    (hq : (c, since) ∈ d.layer.queued) (hholds : (d.locks c.service).holder? = some c.id) :
    InLine (d.pass c) := by
  obtain ⟨line, hline⟩ : ∃ line, (d.locks c.service).queue = c.id :: line := by
    rw [Lock.holder?_eq] at hholds
    exact List.head?_eq_some_iff.mp hholds
  have hlocks : ∀ k, ((d.pass c).locks k).queue =
      if k = c.service then line else (d.locks k).queue := by
    intro k
    show (if k = c.service then (d.locks c.service).release else d.locks k).queue = _
    split
    · rw [Lock.queue_release, hline, List.tail_cons]
    · rfl
  have hnodup := h.once c.service
  rw [hline, List.nodup_cons] at hnodup
  constructor
  · intro k
    rw [hlocks]
    split
    · exact hnodup.2
    · exact h.once k
  · intro k id hid
    rw [hlocks] at hid
    -- Nobody but the holder has its name: not in its line, and in no other one.
    have hother : id ≠ c.id ∧ id ∈ (d.locks k).queue := by
      split at hid
      · rename_i hk
        subst hk
        exact ⟨fun heq => hnodup.1 (heq ▸ hid), hline ▸ List.mem_cons_of_mem _ hid⟩
      · rename_i hk
        refine ⟨fun heq => hk ?_, hid⟩
        obtain ⟨q, hqk, hqid, hqs⟩ := h.waits k id hid
        rw [← hqs, names.eq_of_id hqk hq (hqid.trans heq)]
    obtain ⟨q, hqk, hqid, hqs⟩ := h.waits k id hother.2
    refine ⟨q, List.mem_filter.mpr ⟨hqk, ?_⟩, hqid, hqs⟩
    simpa [hqid] using hother.1

theorem queue_setLock_ask (d : Dispatcher α) (service : Nat) (id : RequestId) (k : Nat) :
    ((d.setLock service ((d.locks service).ask id)).locks k).queue =
      (d.locks k).queue ++ if k = service then [id] else [] := by
  show (if k = service then _ else d.locks k).queue = _
  split
  · rename_i hk
    rw [Lock.queue_ask, hk]
  · exact (List.append_nil _).symm

theorem InLine.ask (h : InLine d) (id : RequestId) : InLine (d.ask id) := by
  rw [Dispatcher.ask]
  split
  case h_2 => exact h
  rename_i c since hfind
  obtain ⟨hq, hid⟩ := queued?_eq_some hfind
  dsimp only
  split
  case isTrue => exact h
  rename_i hnew
  constructor
  · intro k
    rw [queue_setLock_ask]
    split
    · rename_i hk
      subst hk
      exact List.nodup_append.mpr ⟨h.once _, List.nodup_singleton _, fun a ha b hb heq =>
        hnew (List.mem_singleton.mp hb ▸ heq ▸ ha)⟩
    · exact (List.append_nil _).symm ▸ h.once k
  · intro k other hother
    rw [queue_setLock_ask, List.mem_append] at hother
    rcases hother with hother | hother
    · exact h.waits k other hother
    · split at hother
      · rename_i hk
        exact ⟨(c, since), hq, hid.trans (List.mem_singleton.mp hother).symm, hk.symm⟩
      · exact absurd hother List.not_mem_nil

theorem InLine.cancel (h : InLine d) (id : RequestId) : InLine (d.cancel id).1 where
  once k := by
    show ((d.locks k).leave id).queue.Nodup
    rw [Lock.queue_leave]
    exact (h.once k).erase id
  waits k other hother := by
    have hother' : other ∈ ((d.locks k).leave id).queue := hother
    rw [Lock.queue_leave, (h.once k).mem_erase_iff] at hother'
    obtain ⟨q, hq, hqid, hqs⟩ := h.waits k other hother'.2
    refine ⟨q, List.mem_filter.mpr ⟨hq, ?_⟩, hqid, hqs⟩
    simpa [hqid] using hother'.1

theorem InLine.check (h : InLine d) (names : Named d) (id : RequestId) (now : Instant) :
    InLine (d.check id now).1 := by
  rcases check_cases d id now with hc | ⟨c, since, hq, rfl, hholds, ⟨-, hc⟩ | ⟨cause, -, hc⟩⟩ <;>
    rw [hc]
  · exact h
  · exact (h.pass names hq hholds).of_subset rfl (List.Subset.refl _)
  · exact h.pass names hq hholds

/-! ### Nothing more to do -/

/-- All has been done that requests with tokens can do by themselves: to ask for a lock again,
or whether a service is ready, changes nothing. -/
def Quiet (d : Dispatcher α) : Prop := ∀ now id, d.ask id = d ∧ (d.check id now).1 = d

/-- Whoever holds a lock leaves the queue with the next check, unless that is pending. -/
theorem check_passes (names : Named d) {q : Call × Instant} (hq : q ∈ d.layer.queued)
    (hholds : (d.locks q.1.service).holder? = some q.1.id)
    (hready : d.layer.readiness q.1.service ≠ .pending) (now : Instant) :
    ∃ sent, (d.check q.1.id now).1 =
      { d.pass q.1 with layer := { (d.pass q.1).layer with sent } } := by
  rw [Dispatcher.check, names.queued? hq]
  dsimp only
  rw [if_pos hholds]
  split
  · rename_i hpending
    exact absurd hpending hready
  · exact ⟨_, rfl⟩
  · exact ⟨_, rfl⟩

theorem ask_of_not_mem (names : Named d) {q : Call × Instant} (hq : q ∈ d.layer.queued)
    (hnew : q.1.id ∉ (d.locks q.1.service).queue) :
    d.ask q.1.id = d.setLock q.1.service ((d.locks q.1.service).ask q.1.id) := by
  rw [Dispatcher.ask, names.queued? hq]
  exact if_neg hnew

/-- The one in front of a line. -/
theorem InLine.holder (h : InLine d) {k : Nat} (hk : id ∈ (d.locks k).queue) :
    ∃ q ∈ d.layer.queued, q.1.service = k ∧ (d.locks q.1.service).holder? = some q.1.id := by
  obtain ⟨front, line, hline⟩ := List.exists_cons_of_ne_nil (List.ne_nil_of_mem hk)
  obtain ⟨q, hq, hqid, rfl⟩ := h.waits k front (hline ▸ List.mem_cons_self)
  refine ⟨q, hq, rfl, ?_⟩
  rw [Lock.holder?_eq, hline, hqid]
  rfl

/-- A request whose service is ready or failing has more to do, or one in front of it. -/
theorem InLine.pending (h : InLine d) (names : Named d) (quiet : Quiet d) :
    ∀ q ∈ d.layer.queued, d.layer.readiness q.1.service = .pending := by
  intro q hq
  have hin : q.1.id ∈ (d.locks q.1.service).queue := by
    by_contra hnew
    have hasked := (quiet 0 q.1.id).1
    rw [ask_of_not_mem names hq hnew] at hasked
    have hlength := congrArg (fun d => (d.locks q.1.service).queue.length) hasked
    simp [setLock] at hlength
  obtain ⟨front, hfront, hservice, hholds⟩ := h.holder hin
  by_contra hready
  rw [← hservice] at hready
  -- It would leave the queue, in which it stays.
  obtain ⟨sent, hpassed⟩ := check_passes names hfront hholds hready 0
  rw [(quiet 0 front.1.id).2] at hpassed
  have hqueued : d.layer.queued = d.layer.queued.filter (·.1.id != front.1.id) :=
    congrArg (·.layer.queued) hpassed
  rw [hqueued] at hfront
  simp at hfront

/-! ### Locks of other services -/

theorem setLock_comm (d : Dispatcher α) {k k' : Nat} (h : k ≠ k') (l l' : Lock) :
    (d.setLock k l).setLock k' l' = (d.setLock k' l').setLock k l := by
  simp only [setLock, Dispatcher.mk.injEq, true_and, and_true]
  funext j
  by_cases hj : j = k
  · simp [hj, h]
  · simp [hj]

theorem locks_setLock_of_ne (d : Dispatcher α) {k j : Nat} (h : j ≠ k) (l : Lock) :
    (d.setLock k l).locks j = d.locks j := if_neg h

/-- To ask for the lock of one service has nothing to do with the lock of another. -/
theorem ask_setLock {k : Nat} (other : ∀ q ∈ d.layer.queued, q.1.id = id → q.1.service ≠ k)
    (l : Lock) : (d.setLock k l).ask id = (d.ask id).setLock k l := by
  have hsame : (d.setLock k l).queued? id = d.queued? id := rfl
  rw [Dispatcher.ask, Dispatcher.ask, hsame]
  cases hfind : d.queued? id with
  | none => rfl
  | some q =>
    obtain ⟨hq, hid⟩ := queued?_eq_some hfind
    have hk := other q hq hid
    dsimp only
    rw [locks_setLock_of_ne d hk, setLock_comm d hk.symm]
    split <;> rfl

/-- What comes of a check at one service has nothing to do with the lock of another. -/
theorem check_setLock {k : Nat} (other : ∀ q ∈ d.layer.queued, q.1.id = id → q.1.service ≠ k)
    (l : Lock) : (d.setLock k l).check id now =
      ((d.check id now).1.setLock k l, (d.check id now).2) := by
  have hsame : (d.setLock k l).queued? id = d.queued? id := rfl
  rw [Dispatcher.check, Dispatcher.check, hsame]
  cases hfind : d.queued? id with
  | none => rfl
  | some q =>
    obtain ⟨hq, hid⟩ := queued?_eq_some hfind
    have hk := other q hq hid
    have hpass : (d.setLock k l).pass q.1 = (d.pass q.1).setLock k l := by
      rw [pass, locks_setLock_of_ne d hk]
      exact setLock_comm
        { d with layer := { d.layer with queued := d.layer.queued.filter (·.1.id != q.1.id) } }
        hk.symm _ _
    have hready : (d.setLock k l).layer.readiness q.1.service = d.layer.readiness q.1.service := rfl
    dsimp only
    rw [locks_setLock_of_ne d hk, hpass, hready]
    split
    · split <;> rfl
    · rfl

/-! ### Getting there -/

/-- Every request with a token asked for the lock of its service. -/
def Asked (d : Dispatcher α) : Prop := ∀ q ∈ d.layer.queued, q.1.id ∈ (d.locks q.1.service).queue

/-- The requests with tokens whose services are neither ready nor failing. -/
def heldUp (d : Dispatcher α) : List (Call × Instant) :=
  d.layer.queued.filter fun q => d.layer.readiness q.1.service = .pending

theorem Asked.quiet (h : Asked d) (pending : ∀ q ∈ d.layer.queued,
    d.layer.readiness q.1.service = .pending) : Quiet d := by
  intro now id
  constructor
  · rw [Dispatcher.ask]
    split
    · rename_i c since hfind
      obtain ⟨hq, rfl⟩ := queued?_eq_some hfind
      exact if_pos (h _ hq)
    · rfl
  · rcases check_cases d id now with hc | ⟨c, since, hq, -, -, ⟨hready, -⟩ | ⟨cause, hready, -⟩⟩
    · rw [hc]
    · exact absurd (hready.symm.trans (pending _ hq)) (by simp)
    · exact absurd (hready.symm.trans (pending _ hq)) (by simp)

theorem queue_subset_ask (d : Dispatcher α) (id : RequestId) (k : Nat) :
    (d.locks k).queue ⊆ ((d.ask id).locks k).queue := by
  rw [Dispatcher.ask]
  split
  · dsimp only
    split
    · exact List.Subset.refl _
    · rw [queue_setLock_ask]
      exact List.subset_append_left _ _
  · exact List.Subset.refl _

theorem mem_queue_ask (names : Named d) {q : Call × Instant} (hq : q ∈ d.layer.queued) :
    q.1.id ∈ ((d.ask q.1.id).locks q.1.service).queue := by
  by_cases hin : q.1.id ∈ (d.locks q.1.service).queue
  · exact queue_subset_ask d q.1.id q.1.service hin
  · rw [ask_of_not_mem names hq hin, queue_setLock_ask, if_pos rfl]
    exact List.mem_append_right _ (List.mem_singleton_self _)

/-- Whoever stands in a line stays there when the holder of a lock leaves. -/
theorem mem_queue_pass {c : Call} (hholds : (d.locks c.service).holder? = some c.id) {k : Nat}
    (hin : id ∈ (d.locks k).queue) (hother : id ≠ c.id) : id ∈ ((d.pass c).locks k).queue := by
  show id ∈ (if k = c.service then _ else d.locks k).queue
  split
  · rename_i hk
    rw [Lock.holder?_eq] at hholds
    obtain ⟨line, hline⟩ := List.head?_eq_some_iff.mp hholds
    rw [hk, hline, List.mem_cons] at hin
    rw [Lock.queue_release, hline]
    exact hin.resolve_left hother
  · exact hin

theorem Asked.pass (h : Asked d) {c : Call} (hholds : (d.locks c.service).holder? = some c.id) :
    Asked (d.pass c) := by
  intro q hq
  obtain ⟨hq, hother⟩ := List.mem_filter.mp hq
  exact mem_queue_pass hholds (h q hq) (by simpa using hother)

/-- Those that are held up stay when another one leaves the queue. -/
theorem Named.heldUp_pass (names : Named d) {q : Call × Instant} (hq : q ∈ d.layer.queued)
    (hready : d.layer.readiness q.1.service ≠ .pending) : (d.pass q.1).heldUp = d.heldUp := by
  show (d.layer.queued.filter (·.1.id != q.1.id)).filter _ = _
  rw [List.filter_filter, heldUp]
  refine List.filter_congr fun q' hq' => ?_
  by_cases hid : q'.1.id = q.1.id
  · rw [names.eq_of_id hq' hq hid]
    simpa using hready
  · simp [pass, setLock, hid]

/-! ### Less and less to do -/

/-- What a request does by itself when it has its token. -/
def Action.isPoll : Action → Bool
  | .ask _ | .check _ => true
  | _ => false

/-- How much requests with tokens can do by themselves at most: leave the queue, and ask for a
lock before. -/
def todo (d : Dispatcher α) : Nat :=
  d.layer.queued.length + d.layer.queued.countP fun q => q.1.id ∉ (d.locks q.1.service).queue

theorem countP_lt_countP {β : Type} {p p' : β → Bool} {l : List β} (h : ∀ x ∈ l, p' x → p x)
    {x : β} (hx : x ∈ l) (hp : p x) (hp' : ¬p' x) : l.countP p' < l.countP p := by
  have hfilter : l.filter p' = (l.filter p).filter p' := by
    rw [List.filter_filter]
    refine List.filter_congr fun y hy => ?_
    have := h y hy
    cases hy' : p' y <;> simp_all
  rw [List.countP_eq_length_filter, List.countP_eq_length_filter, hfilter]
  exact List.length_filter_lt_length_iff_exists.mpr ⟨x, List.mem_filter.mpr ⟨hx, hp⟩, hp'⟩

theorem todo_ask (names : Named d) (hne : d.ask id ≠ d) : todo (d.ask id) < todo d := by
  obtain ⟨q, hq, rfl, hnew⟩ : ∃ q ∈ d.layer.queued, q.1.id = id ∧
      q.1.id ∉ (d.locks q.1.service).queue := by
    rw [Dispatcher.ask] at hne
    split at hne
    · rename_i c since hfind
      obtain ⟨hq, hid⟩ := queued?_eq_some hfind
      refine ⟨(c, since), hq, hid, fun hin => hne (if_pos (hid ▸ hin))⟩
    · exact absurd rfl hne
  have hlayer : (d.ask q.1.id).layer = d.layer := by rw [ask_eq]
  rw [todo, todo, hlayer]
  refine Nat.add_lt_add_left (countP_lt_countP ?_ hq (by simpa using hnew) ?_) _
  · intro q' _ hout
    simp only [decide_eq_true_eq] at hout ⊢
    exact fun hin => hout (queue_subset_ask d q.1.id q'.1.service hin)
  · simpa using mem_queue_ask names hq

theorem todo_pass {c : Call} {since : Instant} (hq : (c, since) ∈ d.layer.queued)
    (hholds : (d.locks c.service).holder? = some c.id) : todo (d.pass c) < todo d := by
  have hshorter : (d.layer.queued.filter (·.1.id != c.id)).length < d.layer.queued.length :=
    List.length_filter_lt_length_iff_exists.mpr ⟨_, hq, by simp⟩
  refine Nat.add_lt_add_of_lt_of_le hshorter ?_
  refine Nat.le_trans (List.countP_mono_left fun q hq' hout => ?_) List.filter_sublist.countP_le
  obtain ⟨-, hother⟩ := List.mem_filter.mp hq'
  simp only [decide_eq_true_eq] at hout ⊢
  exact fun hin => hout (mem_queue_pass hholds hin (by simpa using hother))

theorem todo_check (hne : (d.check id now).1 ≠ d) : todo (d.check id now).1 < todo d := by
  rcases check_cases d id now with hc | ⟨c, since, hq, rfl, hholds, ⟨-, hc⟩ | ⟨cause, -, hc⟩⟩ <;>
    rw [hc] at hne ⊢
  · exact absurd rfl hne
  · exact todo_pass hq hholds
  · exact todo_pass hq hholds

end

variable {α : Type} [TokenArithmetic α] {d : Dispatcher α}

/-- Whatever a request does by itself leaves less to do, or changes nothing. -/
theorem todo_poll (names : Named d) (now : Instant) {a : Action} (ha : a.isPoll)
    (hne : (d.step now a).1 ≠ d) : todo (d.step now a).1 < todo d := by
  cases a with
  | ask id => exact todo_ask names hne
  | check id => exact todo_check hne
  | _ => exact absurd ha Bool.false_ne_true

/-- Checks alone empty the queue of all that are not held up. -/
theorem checks_settle (now : Instant) (d : Dispatcher α) (h : InLine d) (names : Named d)
    (asked : Asked d) : ∃ ids : List RequestId,
      Quiet (d.run (ids.map fun id => (now, .check id))).1 ∧
        (d.run (ids.map fun id => (now, .check id))).1.layer.queued = d.heldUp := by
  by_cases hpending : ∀ q ∈ d.layer.queued, d.layer.readiness q.1.service = .pending
  · have hall : d.heldUp = d.layer.queued := List.filter_eq_self.mpr (by simpa using hpending)
    exact ⟨[], asked.quiet hpending, hall.symm⟩
  · -- In front of the line for a service that is not pending stands one that can go on.
    push Not at hpending
    obtain ⟨q, hq, hready⟩ := hpending
    obtain ⟨front, hfront, hservice, hholds⟩ := h.holder (asked q hq)
    rw [← hservice] at hready
    obtain ⟨sent, hpassed⟩ := check_passes names hfront hholds hready now
    have hshorter : (d.check front.1.id now).1.layer.queued.length < d.layer.queued.length := by
      rw [hpassed]
      exact List.length_filter_lt_length_iff_exists.mpr ⟨front, hfront, by simp⟩
    obtain ⟨ids, hquiet, hrest⟩ := checks_settle now (d.check front.1.id now).1
      (h.check names _ now) (by rw [hpassed]; exact (List.filter_sublist.map _).nodup names)
      (by rw [hpassed]; exact asked.pass hholds)
    refine ⟨front.1.id :: ids, hquiet, hrest.trans ?_⟩
    rw [hpassed]
    exact names.heldUp_pass hfront hready
termination_by d.layer.queued.length

/-- Requests that ask for their locks change nothing but the lines, and stand in line then. -/
theorem asks_line_up (now : Instant) (ids : List RequestId) (d : Dispatcher α) (h : InLine d)
    (names : Named d) : InLine (d.run (ids.map fun id => (now, .ask id))).1 ∧
      (d.run (ids.map fun id => (now, .ask id))).1.layer = d.layer ∧
      ∀ q ∈ d.layer.queued, q.1.id ∈ ids ∨ q.1.id ∈ (d.locks q.1.service).queue →
        q.1.id ∈ ((d.run (ids.map fun id => (now, .ask id))).1.locks q.1.service).queue := by
  induction ids generalizing d with
  | nil => exact ⟨h, rfl, fun q _ hin => hin.resolve_left List.not_mem_nil⟩
  | cons id ids ih =>
    have hlayer : (d.ask id).layer = d.layer := by rw [ask_eq]
    have hnames : Named (d.ask id) := by rwa [Named, hlayer]
    obtain ⟨hline, hsame, hall⟩ := ih (d.ask id) (h.ask id) hnames
    rw [hlayer] at hsame hall
    refine ⟨hline, hsame, fun q hq hin => hall q hq ?_⟩
    rcases hin with hin | hin
    · rcases List.mem_cons.mp hin with rfl | hin
      · exact .inr (mem_queue_ask names hq)
      · exact .inl hin
    · exact .inr (queue_subset_ask d id q.1.service hin)

/-- Requests with tokens get by themselves to where nothing is left to do. -/
theorem InLine.settles (h : InLine d) (names : Named d) (now : Instant) :
    ∃ polls : List Action, (∀ a ∈ polls, a.isPoll) ∧
      Quiet (d.run (polls.map (now, ·))).1 ∧
        (d.run (polls.map (now, ·))).1.layer.queued = d.heldUp := by
  obtain ⟨hline, hlayer, hall⟩ := asks_line_up now (d.layer.queued.map (·.1.id)) d h names
  set lined := (d.run ((d.layer.queued.map (·.1.id)).map fun id => (now, .ask id))).1 with hlined
  have hnames : Named lined := by rwa [Named, hlayer]
  have hasked : Asked lined := by
    intro q hq
    rw [hlayer] at hq
    exact hall q hq (.inl (List.mem_map_of_mem hq))
  obtain ⟨ids, hquiet, hqueued⟩ := checks_settle now lined hline hnames hasked
  refine ⟨(d.layer.queued.map (·.1.id)).map Action.ask ++ ids.map Action.check, ?_, ?_⟩
  · intro a ha
    rcases List.mem_append.mp ha with ha | ha <;> obtain ⟨id, -, rfl⟩ := List.mem_map.mp ha <;> rfl
  · have hrun : (d.run (((d.layer.queued.map (·.1.id)).map Action.ask ++
        ids.map Action.check).map (now, ·))).1 =
          (lined.run (ids.map fun id => (now, .check id))).1 := by
      simp only [List.map_append, List.map_map, run_append, hlined, Function.comp_def]
    rw [hrun]
    refine ⟨hquiet, hqueued.trans ?_⟩
    rw [heldUp, hlayer]
    rfl

/-! ### Every run -/

/-- **Every action keeps the lines.** -/
theorem InLine.step (h : InLine d) (names : Named d) (now : Instant) (a : Action) :
    InLine (d.step now a).1 := by
  cases a with
  | send c =>
    simp only [Dispatcher.step, send, RequestLayer.send]
    split
    · exact h
    · refine h.of_subset rfl fun q hq => ?_
      dsimp only
      split
      · exact List.mem_append_left _ hq
      · exact hq
  | retry id =>
    simp only [Dispatcher.step, retry]
    split
    · exact h.of_subset rfl fun q hq => List.mem_append_left _ hq
    · exact h
  | ask id => exact h.ask id
  | check id => exact h.check names id now
  | reply id r =>
    simp only [Dispatcher.step, reply, RequestLayer.reply]
    split <;> exact h.of_subset rfl (List.Subset.refl _)
  | cancel id => exact h.cancel id
  | setReadiness service r => exact h.of_subset rfl (List.Subset.refl _)
  | tryAcquire => exact h.of_subset rfl (List.Subset.refl _)

theorem named_run (limiter : Limiter α) (acts : List (Instant × Action)) :
    Named ((new limiter).run acts).1 := by
  refine nodup_of_tally_le_one fun id => ?_
  obtain ⟨hsent, hwhere, -⟩ := (kept_run limiter acts).ledger id
  have hone := used_le_one ((new limiter).run acts).1.places.fresh id
  show tally (·.1.id) id ((new limiter).run acts).1.places.queued ≤ 1
  omega

theorem inLine_run (limiter : Limiter α) (acts : List (Instant × Action)) :
    InLine ((new limiter).run acts).1 := by
  induction acts using List.reverseRecOn with
  | nil => exact ⟨fun _ => List.nodup_nil, fun _ _ hid => absurd hid List.not_mem_nil⟩
  | append_singleton acts act ih =>
    rw [run_append]
    exact ih.step (named_run limiter acts) act.1 act.2

/-- A request that drew its token and was neither handed over nor refused nor dropped is in
the queue. -/
theorem Kept.queued {p : Places} {es : List Event} (h : Kept p es) {c : Call}
    (hbegan : c ∈ began es) (hdrew : c.id ∈ drew es) (hreached : c.id ∉ (reached es).map (·.id))
    (hrefused : c.id ∉ (refused es).map (·.1.id)) (hdropped : c.id ∉ dropped es) :
    ∃ t, (c, t) ∈ p.queued := by
  obtain ⟨hsent, hwhere, hdraws, -, hreplied, hended⟩ := h.ledger c.id
  have hnames : ((began es).map (·.id)).Nodup := nodup_of_tally_le_one fun id =>
    Nat.le_trans (h.ledger id).sent (used_le_one _ id)
  have hpos : 0 < tally Call.id c.id (began es) := tally_pos hbegan
  have hone := used_le_one p.fresh c.id
  have hhits : ¬0 < tally Call.id c.id (reached es) := fun hpos => hreached (tally_pos_iff.mp hpos)
  rw [← List.count_pos_iff] at hdrew hdropped
  rw [← tally_pos_iff] at hrefused
  -- The balances leave no other place for it.
  have hqueued : 0 < tally (·.1.id) c.id p.queued := by omega
  obtain ⟨⟨c', t⟩, hq, hid⟩ := List.mem_map.mp (tally_pos_iff.mp hqueued)
  have hcall : c' ∈ p.calls := mem_calls.mpr (.inr (.inl ⟨t, hq⟩))
  rw [List.inj_on_of_nodup_map hnames (h.known.places c' hcall) hbegan hid] at hq
  exact ⟨t, hq⟩

/-- **A request with a token waits for its own service only.** When requests have done what
they can do by themselves, one that drew its token and was neither handed over nor refused nor
dropped has a service whose check is pending. They always get so far in whatever order they
take turns, and can do so with nobody left in the queue who is not held up in this way; and the
lock of another service makes no difference to what they do. -/
theorem dispatch_waits_for_readiness (limiter : Limiter α) (acts : List (Instant × Action)) :
    let (d, es) := (new limiter).run acts
    (Quiet d → ∀ c ∈ began es, c.id ∈ drew es → c.id ∉ (reached es).map (·.id) →
      c.id ∉ (refused es).map (·.1.id) → c.id ∉ dropped es →
        d.layer.readiness c.service = .pending) ∧
    (∀ now a, a.isPoll → (d.step now a).1 ≠ d → todo (d.step now a).1 < todo d) ∧
    (∀ now, ∃ polls : List Action, (∀ a ∈ polls, a.isPoll) ∧
      Quiet (d.run (polls.map (now, ·))).1 ∧
        (d.run (polls.map (now, ·))).1.layer.queued = d.heldUp) ∧
    ∀ now id k l, (∀ q ∈ d.layer.queued, q.1.id = id → q.1.service ≠ k) →
      (d.setLock k l).ask id = (d.ask id).setLock k l ∧
        (d.setLock k l).check id now = ((d.check id now).1.setLock k l, (d.check id now).2) := by
  have hline := inLine_run limiter acts
  have hnames := named_run limiter acts
  have hkept := kept_run limiter acts
  refine ⟨fun quiet c hbegan hdrew hreached hrefused hdropped => ?_,
    fun now a ha hne => todo_poll hnames now ha hne, hline.settles hnames,
    fun now id k l other => ⟨ask_setLock other l, check_setLock other l⟩⟩
  obtain ⟨t, hq⟩ := hkept.queued hbegan hdrew hreached hrefused hdropped
  exact hline.pending hnames quiet (c, t) hq

end ClusterAgent.Dispatcher
