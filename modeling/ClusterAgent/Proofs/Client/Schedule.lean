/-
The request layer does what requests and locks can do.

A `RequestLayer` does at once all that can be done at an instant.  The same comes of
a run of a dispatcher in which requests take their turns in a certain order: whoever
is due tries again and stands in line if there was a token, and then the queue is
gone through from front to back.

* `Dispatcher.Scheduled` — a layer, and what was seen of it, that such a run leads to;
* `Dispatcher.Scheduled.send`, `.wake`, `.dispatch`, `.reply`, `.cancel`,
  `.setReadiness`, `.tryAcquire` — everything that is done to a layer leads to another;
* `Dispatcher.Scripted.accounted` — so requests with scripted replies are accounted for.

Design notes: at each lock stand exactly the requests that wait for its service, in
the order of the queue, and requests wait for tokens in the order in which they were
sent.  The first makes the front of the queue the holder of its lock, and the second
makes those who get a token leave in the order in which they try.
-/
import ClusterAgent.Proofs.Client.Dispatching
import ClusterAgent.Proofs.Time.Passing

namespace ClusterAgent.Dispatcher

def Event.seen? : Event → Option RequestEvent
  | .seen e => some e
  | _ => none

/-- What is seen from outside. -/
abbrev seen (es : List Event) : List RequestEvent := es.filterMap Event.seen?

/-- The requests for a service, in their order. -/
def idsFor (queued : List (Call × Instant)) (k : Nat) : List RequestId :=
  (queued.filter (·.1.service == k)).map (·.1.id)

@[simp] theorem idsFor_append (l m : List (Call × Instant)) (k : Nat) :
    idsFor (l ++ m) k = idsFor l k ++ idsFor m k := by
  simp [idsFor]

@[simp] theorem idsFor_cons (q : Call × Instant) (l : List (Call × Instant)) (k : Nat) :
    idsFor (q :: l) k = (if q.1.service = k then [q.1.id] else []) ++ idsFor l k := by
  by_cases h : q.1.service = k <;> simp [idsFor, h]

theorem mem_of_mem_idsFor {queued : List (Call × Instant)} {k : Nat} {id : RequestId}
    (h : id ∈ idsFor queued k) : ∃ q ∈ queued, q.1.id = id := by
  obtain ⟨q, hq, hid⟩ := List.mem_map.mp h
  exact ⟨q, List.mem_of_mem_filter hq, hid⟩

section

variable {α : Type} {d : Dispatcher α}

/-- Requests stand in line in the order of the queue, and wait for tokens as they were sent. -/
structure Tidy (d : Dispatcher α) : Prop where
  lines : ∀ k, (d.locks k).queue = idsFor d.layer.queued k
  waiters : d.layer.limiter.waiters.map (·.id) = d.layer.drawing.map (·.id)

/-- Requests on their way have names of their own, below that of the next one. -/
def Distinct (d : Dispatcher α) : Prop :=
  ∀ id, tally Call.id id d.places.calls ≤ used d.fresh id

theorem Distinct.drawing (h : Distinct d) : (d.layer.drawing.map (·.id)).Nodup := by
  refine nodup_of_tally_le_one fun id => ?_
  have hle := h id
  have hone := used_le_one d.fresh id
  rw [tally_calls] at hle
  show tally Call.id id d.places.drawing ≤ 1
  omega

theorem Distinct.named (h : Distinct d) : Named d := by
  refine nodup_of_tally_le_one fun id => ?_
  have hle := h id
  have hone := used_le_one d.fresh id
  rw [tally_calls] at hle
  show tally (·.1.id) id d.places.queued ≤ 1
  omega

theorem map_filter_ne {β : Type} (name : β → RequestId) (id : RequestId) (l : List β) :
    (l.filter (name · != id)).map name = (l.map name).filter (· != id) := by
  rw [List.filter_map]
  rfl

theorem filter_id_eq {l : List Call} (hnodup : (l.map (·.id)).Nodup) {c : Call} (hc : c ∈ l) :
    l.filter (·.id == c.id) = [c] := by
  obtain ⟨front, rest, rfl⟩ := List.append_of_mem hc
  rw [List.map_append, List.map_cons, List.nodup_middle, List.nodup_cons, ← List.map_append]
    at hnodup
  have hothers : ∀ c' ∈ front ++ rest, c'.id ≠ c.id := fun c' hc' hid =>
    hnodup.1 (hid ▸ List.mem_map_of_mem hc')
  have hnone : ∀ m : List Call, m ⊆ front ++ rest → m.filter (·.id == c.id) = [] := by
    intro m hm
    rw [List.filter_eq_nil_iff]
    exact fun c' hc' => by simpa using hothers c' (hm hc')
  rw [List.filter_append, List.filter_cons_of_pos (by simp),
    hnone front (List.subset_append_left _ _), hnone rest (List.subset_append_right _ _)]
  rfl

/-- Whoever just got its token goes to the end of its line. -/
theorem Tidy.ask_last {queued : List (Call × Instant)} {c : Call} {now : Instant}
    (names : Named d) (hqueued : d.layer.queued = queued ++ [(c, now)])
    (hlines : ∀ k, (d.locks k).queue = idsFor queued k)
    (hwaiters : d.layer.limiter.waiters.map (·.id) = d.layer.drawing.map (·.id)) :
    Tidy (d.ask c.id) ∧ (d.ask c.id).layer = d.layer ∧ (d.ask c.id).fresh = d.fresh := by
  have hq : (c, now) ∈ d.layer.queued := hqueued ▸ List.mem_append_right _ List.mem_cons_self
  have hnew : c.id ∉ (d.locks c.service).queue := by
    intro hin
    rw [hlines] at hin
    obtain ⟨q, hq', hid⟩ := mem_of_mem_idsFor hin
    rw [Named, hqueued, List.map_append, List.map_singleton, List.nodup_append] at names
    exact names.2.2 q.1.id (List.mem_map_of_mem hq') c.id List.mem_cons_self hid
  have hask : d.ask c.id = d.setLock c.service ((d.locks c.service).ask c.id) :=
    ask_of_not_mem names hq hnew
  refine ⟨⟨fun k => ?_, ?_⟩, ?_, ?_⟩
  · rw [hask, queue_setLock_ask, hlines]
    show _ = idsFor d.layer.queued k
    rw [hqueued, idsFor_append, idsFor_cons]
    simp [idsFor, eq_comm]
  · rw [hask]
    exact hwaiters
  · rw [hask]
    rfl
  · rw [hask]
    rfl

/-- Whoever leaves the queue from the front of its line, which nobody before it in the queue
shares. -/
theorem Tidy.pass_front (h : Tidy d) (names : Named d) {front rest : List (Call × Instant)}
    {c : Call} {since : Instant} (hqueued : d.layer.queued = front ++ (c, since) :: rest)
    (hfront : ∀ q ∈ front, q.1.service ≠ c.service) :
    (d.locks c.service).holder? = some c.id ∧
      (d.pass c).layer.queued = front ++ rest ∧ Tidy (d.pass c) := by
  have hnone : idsFor front c.service = [] := by
    rw [idsFor, List.map_eq_nil_iff, List.filter_eq_nil_iff]
    simpa using hfront
  have hline : (d.locks c.service).queue = c.id :: idsFor rest c.service := by
    rw [h.lines, hqueued, idsFor_append, hnone, idsFor_cons, if_pos rfl]
    rfl
  have hrest : (d.pass c).layer.queued = front ++ rest := by
    show d.layer.queued.filter (·.1.id != c.id) = _
    rw [Named, hqueued, List.map_append, List.map_cons, List.nodup_middle, List.nodup_cons,
      ← List.map_append] at names
    have hothers : ∀ q ∈ front ++ rest, (q.1.id != c.id) = true := by
      intro q hq
      have hne : q.1.id ≠ c.id := fun hid => names.1 (hid ▸ List.mem_map_of_mem hq)
      simpa using hne
    rw [hqueued, List.filter_append, List.filter_cons_of_neg (by simp), ← List.filter_append]
    exact List.filter_eq_self.mpr hothers
  refine ⟨by rw [Lock.holder?_eq, hline]; rfl, hrest, fun k => ?_, h.waiters⟩
  rw [hrest]
  show (if k = c.service then (d.locks c.service).release else d.locks k).queue = _
  split
  · rename_i hk
    rw [Lock.queue_release, hline, hk, idsFor_append, hnone]
    rfl
  · rename_i hk
    rw [h.lines, hqueued, idsFor_append, idsFor_append, idsFor_cons, if_neg (Ne.symm hk)]
    rfl

end

/-! ### Layers that runs lead to -/

variable {α : Type} [TokenArithmetic α] {limiter : Limiter α} {fresh fresh' : RequestId}
  {l l' : RequestLayer α} {es fs : List RequestEvent} {now : Instant}

theorem distinct_run (limiter : Limiter α) (acts : List (Instant × Action)) :
    Distinct ((new limiter).run acts).1 := by
  intro id
  obtain ⟨hsent, hwhere, -⟩ := (kept_run limiter acts).ledger id
  have hcalls := tally_calls ((new limiter).run acts).1.places id
  show tally Call.id id ((new limiter).run acts).1.places.calls ≤
    used ((new limiter).run acts).1.places.fresh id
  omega

/-- A dispatcher with this layer, after a run of which this was seen. -/
structure Shows (d : Dispatcher α) (all : List Event) (fresh : RequestId) (l : RequestLayer α)
    (es : List RequestEvent) : Prop where
  layer : d.layer = l
  fresh : d.fresh = fresh
  seen : seen all = es
  tidy : Tidy d

/-- A layer, the least number for the next request, and what was seen, after some run. -/
def Scheduled (limiter : Limiter α) (fresh : RequestId) (l : RequestLayer α)
    (es : List RequestEvent) : Prop :=
  ∃ acts, Shows ((new limiter).run acts).1 ((new limiter).run acts).2 fresh l es

theorem scheduled_new (h : limiter.waiters = []) :
    Scheduled limiter 0 (RequestLayer.new limiter) [] :=
  ⟨[], rfl, rfl, rfl, ⟨fun _ => rfl, by simp [run, new, RequestLayer.new, h]⟩⟩

/-- More actions lead on. -/
theorem Scheduled.act (h : Scheduled limiter fresh l es) (more : List (Instant × Action))
    (hmore : ∀ d, d.layer = l → d.fresh = fresh → Tidy d → (∀ acts, Distinct (d.run acts).1) →
      Shows (d.run more).1 (d.run more).2 fresh' l' fs) :
    Scheduled limiter fresh' l' (es ++ fs) := by
  obtain ⟨acts, hlayer, hfresh, hseen, htidy⟩ := h
  obtain ⟨hlayer', hfresh', hseen', htidy'⟩ := hmore _ hlayer hfresh htidy fun acts' => by
    have hdistinct := distinct_run limiter (acts ++ acts')
    rwa [run_append] at hdistinct
  refine ⟨acts ++ more, ?_, ?_, ?_, ?_⟩ <;> rw [run_append]
  · exact hlayer'
  · exact hfresh'
  · rw [Dispatcher.seen, List.filterMap_append, ← hseen, ← hseen']
  · exact htidy'

theorem Scheduled.send (h : Scheduled limiter fresh l es) (c : Call) (above : fresh ≤ c.id)
    (now : Instant) :
    Scheduled limiter (c.id + 1) (l.send c now).1 (es ++ (l.send c now).2) := by
  have hlimiter := Limiter.acquire_limiter l.limiter c.id now
  have hgranted := Limiter.acquire_granted l.limiter c.id now
  rcases hacq : l.limiter.acquire c.id now with ⟨got, limiter', ns⟩
  rw [hacq] at hlimiter hgranted
  dsimp only at hlimiter hgranted
  rw [← hgranted] at hlimiter
  cases got
  · -- It waits for a token behind those that were sent before.
    refine h.act [(now, .send c)] ?_
    rintro d rfl rfl ⟨hlines, hwaiters⟩ -
    have hsend : d.run [(now, .send c)] =
        ({ d with
            layer := { d.layer with limiter := limiter', drawing := d.layer.drawing ++ [c] }
            fresh := c.id + 1 },
          .began c :: ns.map fun n => .seen (.notice n)) := by
      simp [run, step, Dispatcher.send, Nat.not_lt.mpr above, RequestLayer.send, hacq,
        Function.comp_def]
    rw [hsend]
    refine ⟨?_, rfl, ?_, hlines, ?_⟩
    · simp [RequestLayer.send, hacq]
    · simp [RequestLayer.send, hacq, List.filterMap_cons, Event.seen?, Function.comp_def]
    · simpa [hlimiter] using hwaiters
  · refine h.act [(now, .send c), (now, .ask c.id)] ?_
    rintro d rfl rfl ⟨hlines, hwaiters⟩ hdistinct
    have hsend : d.send c now =
        ({ d with
            layer := { d.layer with limiter := limiter', queued := d.layer.queued ++ [(c, now)] }
            fresh := c.id + 1 },
          .began c :: .drew c.id :: ns.map fun n => .seen (.notice n)) := by
      simp [Dispatcher.send, Nat.not_lt.mpr above, RequestLayer.send, hacq, Function.comp_def]
    have hrun : d.run [(now, .send c), (now, .ask c.id)] =
        ((d.send c now).1.ask c.id, (d.send c now).2) := by
      simp [run, step]
    have names : Named (d.send c now).1 := (hdistinct [(now, .send c)]).named
    rw [hsend] at hrun names
    rw [hrun]
    obtain ⟨htidy, hlayer, hfresh⟩ :=
      Tidy.ask_last names rfl hlines (by simpa [hlimiter] using hwaiters)
    refine ⟨?_, hfresh, ?_, htidy⟩
    · rw [hlayer]
      simp [RequestLayer.send, hacq]
    · simp [RequestLayer.send, hacq, List.filterMap_cons, Event.seen?, Function.comp_def]

theorem retryAll_sublist (now : Instant) (ids : List RequestId) (lim : Limiter α) :
    (Limiter.retryAll now ids lim).2.Sublist ids := by
  induction ids generalizing lim with
  | nil => exact List.Sublist.refl _
  | cons id ids ih =>
    rw [Limiter.retryAll]
    dsimp only
    split
    · exact (ih _).cons_cons id
    · exact (ih _).cons id

/-- One of those that wait for tokens tries again, and stands in line if there was one. -/
theorem Scheduled.retry (h : Scheduled limiter fresh l es) {id : RequestId}
    (hid : id ∈ l.drawing.map (·.id)) (now : Instant) :
    Scheduled limiter fresh ({ l with limiter := (Limiter.retryAll now [id] l.limiter).1 }.drawn
      (Limiter.retryAll now [id] l.limiter).2 now) es := by
  have hlimiter := Limiter.retry_limiter l.limiter id now
  have hgranted := Limiter.retry_granted l.limiter id now
  rcases hretry : l.limiter.retry id now with ⟨got, limiter'⟩
  rw [hretry] at hlimiter hgranted
  dsimp only at hlimiter hgranted
  rw [← hgranted] at hlimiter
  have hany : l.drawing.any (·.id == id) = true := by simpa using hid
  rw [← List.append_nil es]
  cases got
  · refine h.act [(now, .retry id)] ?_
    rintro d rfl rfl ⟨hlines, hwaiters⟩ -
    have hrun : d.run [(now, .retry id)] =
        ({ d with layer := { d.layer with limiter := limiter' } }, []) := by
      simp [run, step, Dispatcher.retry, hany, Limiter.retryAll, hretry, drawn_none]
    rw [hrun]
    refine ⟨?_, rfl, rfl, hlines, ?_⟩
    · simp [Limiter.retryAll, hretry, drawn_none]
    · have hsame : ∀ wakesAt w, (Limiter.again id wakesAt w).id = w.id := by
        intro wakesAt w
        rw [Limiter.again]
        split <;> rfl
      simpa [hlimiter, Function.comp_def, hsame] using hwaiters
  · refine h.act [(now, .retry id), (now, .ask id)] ?_
    rintro d rfl rfl ⟨hlines, hwaiters⟩ hdistinct
    obtain ⟨c, hc, rfl⟩ := List.mem_map.mp hid
    have hone : d.layer.drawing.filter (·.id == c.id) = [c] :=
      filter_id_eq (hdistinct []).drawing hc
    have hretried : d.retry c.id now =
        ({ d with
            layer := { d.layer with
              limiter := limiter'
              drawing := d.layer.drawing.filter (·.id != c.id)
              queued := d.layer.queued ++ [(c, now)] } },
          [.drew c.id]) := by
      simp [Dispatcher.retry, hany, Limiter.retryAll, hretry, drawn_one, hone]
    have hrun : d.run [(now, .retry c.id), (now, .ask c.id)] =
        ((d.retry c.id now).1.ask c.id, (d.retry c.id now).2) := by
      simp [run, step]
    have names : Named (d.retry c.id now).1 := (hdistinct [(now, .retry c.id)]).named
    rw [hretried] at hrun names
    rw [hrun]
    have hwaiters' : limiter'.waiters.map (·.id) =
        (d.layer.drawing.filter (·.id != c.id)).map (·.id) := by
      rw [hlimiter, map_filter_ne, ← hwaiters]
      exact map_filter_ne ..
    obtain ⟨htidy, hlayer, hfresh⟩ := Tidy.ask_last names rfl hlines hwaiters'
    refine ⟨?_, hfresh, rfl, htidy⟩
    rw [hlayer]
    simp [Limiter.retryAll, hretry, drawn_one, hone]

/-- The first of some names in their order comes before the rest of them. -/
theorem filter_contains_cons {l : List Call} (hnodup : (l.map (·.id)).Nodup) {id : RequestId}
    {ids granted : List RequestId} (hids : (id :: ids).Sublist (l.map (·.id)))
    (hgranted : granted ⊆ ids) :
    l.filter (fun c => (id :: granted).contains c.id) =
      l.filter (·.id == id) ++ (l.filter (·.id != id)).filter fun c => granted.contains c.id := by
  induction l with
  | nil => rfl
  | cons c l ih =>
    rw [List.map_cons, List.nodup_cons] at hnodup
    by_cases hc : c.id = id
    · -- The rest of the names come later, where this one does not occur again.
      subst hc
      have hothers : ∀ c' ∈ l, c'.id ≠ c.id := fun c' hc' hid =>
        hnodup.1 (hid ▸ List.mem_map_of_mem hc')
      have hnone : l.filter (·.id == c.id) = [] := by
        rw [List.filter_eq_nil_iff]
        exact fun c' hc' => by simpa using hothers c' hc'
      have hall : l.filter (·.id != c.id) = l :=
        List.filter_eq_self.mpr fun c' hc' => by simpa using hothers c' hc'
      have hrest : l.filter (fun c' => (c.id :: granted).contains c'.id) =
          l.filter fun c' => granted.contains c'.id := by
        refine List.filter_congr fun c' hc' => ?_
        simp [hothers c' hc']
      rw [List.filter_cons_of_pos (by simp), List.filter_cons_of_pos (by simp),
        List.filter_cons_of_neg (by simp), hnone, hall, hrest]
      rfl
    · have hlater : (id :: ids).Sublist (l.map (·.id)) := by
        rcases List.sublist_cons_iff.mp hids with hlater | ⟨r, hr, -⟩
        · exact hlater
        · exact absurd (List.cons.inj hr).1.symm hc
      have hout : c.id ∉ granted := fun hin =>
        hnodup.1 (hlater.subset (List.mem_cons_of_mem _ (hgranted hin)))
      rw [List.filter_cons_of_neg (by simp [hc, hout]), List.filter_cons_of_neg (by simpa using hc),
        List.filter_cons_of_pos (by simpa using hc), List.filter_cons_of_neg (by simpa using hout)]
      exact ih hnodup.2 hlater

omit [TokenArithmetic α] in
/-- To try again one by one is to try again together, if requests wait in the order in which
they try. -/
theorem drawn_cons (l : RequestLayer α) (hnodup : (l.drawing.map (·.id)).Nodup) {id : RequestId}
    {ids granted : List RequestId} (hids : (id :: ids).Sublist (l.drawing.map (·.id)))
    (hgranted : granted ⊆ ids) (now : Instant) :
    (l.drawn [id] now).drawn granted now = l.drawn (id :: granted) now := by
  have hdrawing : (l.drawing.filter (·.id != id)).filter (fun c => !granted.contains c.id) =
      l.drawing.filter fun c => !(id :: granted).contains c.id := by
    rw [List.filter_filter]
    refine List.filter_congr fun c _ => ?_
    rw [List.contains_cons, Bool.not_or, bne, Bool.and_comm]
  have hqueued := filter_contains_cons hnodup hids hgranted
  rw [drawn_one]
  simp only [RequestLayer.drawn, hdrawing, hqueued, List.map_append, List.append_assoc]

theorem Scheduled.nodup (h : Scheduled limiter fresh l es) : (l.drawing.map (·.id)).Nodup := by
  obtain ⟨acts, rfl, -, -, -⟩ := h
  exact (distinct_run limiter acts).drawing

theorem Scheduled.retryAll (h : Scheduled limiter fresh l es) (ids : List RequestId)
    (hids : ids.Sublist (l.drawing.map (·.id))) (now : Instant) :
    Scheduled limiter fresh ({ l with limiter := (Limiter.retryAll now ids l.limiter).1 }.drawn
      (Limiter.retryAll now ids l.limiter).2 now) es := by
  induction ids generalizing l with
  | nil => simpa [Limiter.retryAll, drawn_none] using h
  | cons id ids ih =>
    have hfirst := h.retry (hids.subset List.mem_cons_self) now
    have hnotin : id ∉ ids := (List.nodup_cons.mp (hids.nodup h.nodup)).1
    rcases hretry : l.limiter.retry id now with ⟨got, limiter'⟩
    simp only [Limiter.retryAll, hretry] at hfirst ⊢
    cases got
    · rw [if_neg Bool.false_ne_true, drawn_none] at hfirst
      exact ih hfirst ((List.sublist_cons_self _ _).trans hids)
    · have hlater : ids.Sublist ((l.drawing.filter (·.id != id)).map (·.id)) := by
        have hall : ids.filter (· != id) = ids :=
          List.filter_eq_self.mpr fun other hother => by
            simpa using (ne_of_mem_of_not_mem hother hnotin)
        have hfilter := hids.filter (· != id)
        rwa [List.filter_cons_of_neg (by simp), hall, ← map_filter_ne] at hfilter
      rw [if_pos rfl] at hfirst
      have hrest := ih hfirst (by rw [drawn_one]; exact hlater)
      have hcons := drawn_cons { l with limiter := (Limiter.retryAll now ids limiter').1 } h.nodup
        hids (retryAll_sublist now ids limiter').subset now
      rw [if_pos rfl, ← hcons]
      exact hrest

/-- Those that are due try again. -/
theorem Scheduled.wake (h : Scheduled limiter fresh l es) (ms : Nat) :
    Scheduled limiter fresh (l.wake ms) es := by
  have hwaiters : l.limiter.waiters.map (·.id) = l.drawing.map (·.id) := by
    obtain ⟨acts, rfl, -, -, htidy⟩ := h
    exact htidy.waiters
  refine h.retryAll ((l.limiter.waiters.filter (Limiter.isDue ms)).map (·.id)) ?_ _
  rw [← hwaiters]
  exact List.filter_sublist.map _

/-- One request after those that stay in the queue meets its service. -/
theorem Scheduled.check (h : Scheduled limiter fresh l es) {front rest : List (Call × Instant)}
    {c : Call} {since : Instant} (hqueued : l.queued = front ++ (c, since) :: rest)
    (hfront : ∀ q ∈ front, l.readiness q.1.service = .pending) (now : Instant) :
    Scheduled limiter fresh
      { l with
        queued := front ++ ((RequestLayer.dispatchAll l.readiness now [(c, since)]).1 ++ rest)
        sent := l.sent ++ (RequestLayer.dispatchAll l.readiness now [(c, since)]).2.1 }
      (es ++ (RequestLayer.dispatchAll l.readiness now [(c, since)]).2.2) := by
  by_cases hpending : l.readiness c.service = .pending
  · simpa [RequestLayer.dispatchAll, hpending, ← hqueued] using h
  refine h.act [(now, .check c.id)] ?_
  rintro d rfl rfl htidy hdistinct
  have names : Named d := (hdistinct []).named
  have hothers : ∀ q ∈ front, q.1.service ≠ c.service := fun q hq heq =>
    hpending (heq ▸ hfront q hq)
  obtain ⟨hholds, hrest, hpass⟩ := htidy.pass_front names hqueued hothers
  have hfind : d.queued? c.id = some (c, since) :=
    names.queued? (hqueued ▸ List.mem_append_right _ List.mem_cons_self)
  have hrun : d.run [(now, .check c.id)] = d.check c.id now := by
    simp [run, step]
  have hlayer : (d.pass c).layer = { d.layer with queued := front ++ rest } := by
    rw [← hrest]
    rfl
  rw [hrun, Dispatcher.check, hfind]
  dsimp only
  rw [if_pos hholds]
  rcases hready : d.layer.readiness c.service with _ | _ | cause
  · refine ⟨?_, rfl, ?_, ⟨hpass.lines, hpass.waiters⟩⟩
    · simp [RequestLayer.dispatchAll, hready, hlayer]
    · simp [RequestLayer.dispatchAll, hready, Event.seen?]
  · exact absurd hready hpending
  · refine ⟨?_, rfl, ?_, hpass⟩
    · simp [RequestLayer.dispatchAll, hready, hlayer]
    · simp [RequestLayer.dispatchAll, hready, Event.seen?, List.filterMap_cons, Function.comp_def]

theorem dispatchAll_cons (readiness : Nat → Readiness) (now : Instant) (q : Call × Instant)
    (rest : List (Call × Instant)) :
    RequestLayer.dispatchAll readiness now (q :: rest) =
      ((RequestLayer.dispatchAll readiness now [q]).1 ++
        (RequestLayer.dispatchAll readiness now rest).1,
        (RequestLayer.dispatchAll readiness now [q]).2.1 ++
          (RequestLayer.dispatchAll readiness now rest).2.1,
        (RequestLayer.dispatchAll readiness now [q]).2.2 ++
          (RequestLayer.dispatchAll readiness now rest).2.2) := by
  obtain ⟨c, since⟩ := q
  simp only [RequestLayer.dispatchAll]
  cases readiness c.service <;> simp

theorem pending_of_stays {readiness : Nat → Readiness} {now : Instant} {q : Call × Instant}
    {queued : List (Call × Instant)} (h : q ∈ (RequestLayer.dispatchAll readiness now queued).1) :
    readiness q.1.service = .pending := by
  induction queued with
  | nil => exact absurd h List.not_mem_nil
  | cons q' queued ih =>
    rw [dispatchAll_cons, List.mem_append] at h
    rcases h with h | h
    · rcases hready : readiness q'.1.service with _ | _ | cause <;>
        simp [RequestLayer.dispatchAll, hready] at h
      rwa [h]
    · exact ih h

/-- The queue is gone through from front to back. -/
theorem Scheduled.serve (h : Scheduled limiter fresh l es) (rest front : List (Call × Instant))
    (hqueued : l.queued = front ++ rest)
    (hfront : ∀ q ∈ front, l.readiness q.1.service = .pending) (now : Instant) :
    Scheduled limiter fresh
      { l with
        queued := front ++ (RequestLayer.dispatchAll l.readiness now rest).1
        sent := l.sent ++ (RequestLayer.dispatchAll l.readiness now rest).2.1 }
      (es ++ (RequestLayer.dispatchAll l.readiness now rest).2.2) := by
  induction rest generalizing l es front with
  | nil => simpa [RequestLayer.dispatchAll, ← hqueued] using h
  | cons q rest ih =>
    have hfirst := h.check hqueued hfront now
    have hmore := ih hfirst (front ++ (RequestLayer.dispatchAll l.readiness now [q]).1)
      (List.append_assoc ..).symm ?_
    · rw [dispatchAll_cons]
      simpa only [List.append_assoc] using hmore
    · intro q' hq'
      rcases List.mem_append.mp hq' with hq' | hq'
      · exact hfront q' hq'
      · exact pending_of_stays hq'

theorem Scheduled.dispatch (h : Scheduled limiter fresh l es) (now : Instant) :
    Scheduled limiter fresh (l.dispatch now).1 (es ++ (l.dispatch now).2) :=
  h.serve l.queued [] rfl (by simp) now

theorem Scheduled.reply (h : Scheduled limiter fresh l es) (id : RequestId) (r : Reply)
    (now : Instant) :
    Scheduled limiter fresh (l.reply id r now).1 (es ++ (l.reply id r now).2) := by
  refine h.act [(now, .reply id r)] ?_
  rintro d rfl rfl ⟨hlines, hwaiters⟩ -
  have hrun : d.run [(now, .reply id r)] = d.reply id r now := by
    simp [run, step]
  rw [hrun, Dispatcher.reply, RequestLayer.reply]
  cases d.layer.sent.find? (·.1.id == id) with
  | none => exact ⟨rfl, rfl, rfl, hlines, hwaiters⟩
  | some q => exact ⟨rfl, rfl, rfl, hlines, hwaiters⟩

theorem Scheduled.cancel (h : Scheduled limiter fresh l es) (id : RequestId) :
    Scheduled limiter fresh (l.cancel id) es := by
  rw [← List.append_nil es]
  refine h.act [(0, .cancel id)] ?_
  rintro d rfl rfl ⟨hlines, hwaiters⟩ hdistinct
  have names : Named d := (hdistinct []).named
  have hrun : d.run [(0, .cancel id)] = d.cancel id := by
    simp [run, step]
  rw [hrun]
  refine ⟨rfl, rfl, ?_, fun k => ?_, ?_⟩
  · show seen (if d.isPending id then [.dropped id] else []) = []
    split <;> rfl
  · show ((d.locks k).leave id).queue = idsFor (d.layer.queued.filter (·.1.id != id)) k
    have hnodup : (idsFor d.layer.queued k).Nodup := (List.filter_sublist.map _).nodup names
    rw [Lock.queue_leave, hlines, hnodup.erase_eq_filter, idsFor, idsFor,
      ← map_filter_ne fun q : Call × Instant => q.1.id, List.filter_filter, List.filter_filter]
    simp only [Bool.and_comm]
  · show (d.layer.limiter.waiters.filter (·.id != id)).map (·.id) =
      (d.layer.drawing.filter (·.id != id)).map (·.id)
    rw [map_filter_ne Waiter.id, map_filter_ne Call.id]
    exact congrArg _ hwaiters

theorem Scheduled.setReadiness (h : Scheduled limiter fresh l es) (service : Nat) (r : Readiness) :
    Scheduled limiter fresh (l.setReadiness service r) es := by
  rw [← List.append_nil es]
  refine h.act [(0, .setReadiness service r)] ?_
  rintro d rfl rfl ⟨hlines, hwaiters⟩ -
  exact ⟨rfl, rfl, rfl, hlines, hwaiters⟩

theorem Scheduled.tryAcquire (h : Scheduled limiter fresh l es) (now : Instant) :
    Scheduled limiter fresh { l with limiter := (l.limiter.tryAcquire now).2 } es := by
  rw [← List.append_nil es]
  refine h.act [(now, .tryAcquire)] ?_
  rintro d rfl rfl ⟨hlines, hwaiters⟩ -
  exact ⟨rfl, rfl, rfl, hlines, hwaiters⟩

/-! ### Scripted replies -/

theorem Scheduled.deliver (h : Scheduled limiter fresh l es)
    (arriving : List (Nat × RequestId × Reply)) (now : Instant) :
    Scheduled limiter fresh (RequestRun.deliver now arriving l).1
      (es ++ (RequestRun.deliver now arriving l).2) := by
  induction arriving generalizing l es with
  | nil => simpa [RequestRun.deliver] using h
  | cons a arriving ih =>
    have hmore := ih (h.reply a.2.1 a.2.2 now)
    rwa [List.append_assoc] at hmore

theorem Scheduled.settle {r : RequestRun α} (h : Scheduled limiter fresh r.layer es) (ms : Nat) :
    Scheduled limiter fresh (r.settle ms).1.layer (es ++ (r.settle ms).2) := by
  have hserved := (h.wake ms).dispatch (Clock.instantOf ms)
  set dispatched := ((r.layer.wake ms).dispatch (Clock.instantOf ms)).2
  have hmore := hserved.deliver ((r.arriving ++
    dispatched.filterMap (RequestRun.answerTo? r.scripts ms)).filter (·.1 ≤ ms))
      (Clock.instantOf ms)
  rw [List.append_assoc] at hmore
  exact hmore

theorem Scheduled.advance {r : RequestRun α} (h : Scheduled limiter fresh r.layer es)
    {start target : Nat} (hle : start ≤ target) :
    Scheduled limiter fresh (r.advance start target).1.layer
      (es ++ (r.advance start target).2) := by
  refine Clock.pass_induct (motive := fun _ r result => ∀ es, Scheduled limiter fresh r.layer es →
    Scheduled limiter fresh result.1.layer (es ++ result.2)) ?_ ?_ hle r es h
  · intro r es h
    rwa [List.append_nil]
  · intro now t r rest _ _ _ hrest es h
    have hmore := hrest _ (h.settle t)
    rwa [List.append_assoc] at hmore

/-- What may be done to requests with scripted replies, from the beginning. -/
inductive Scripted (limiter : Limiter α) :
    Nat → RequestId → RequestRun α → List RequestEvent → Prop
  | start : Scripted limiter 0 0 ⟨RequestLayer.new limiter, [], []⟩ []
  | send {ms : Nat} {fresh : RequestId} {r : RequestRun α} {es : List RequestEvent} (c : Call)
      (s : Script) (above : fresh ≤ c.id) : Scripted limiter ms fresh r es →
      Scripted limiter ms (c.id + 1) (r.send ms c s).1 (es ++ (r.send ms c s).2)
  | setReadiness {ms : Nat} {fresh : RequestId} {r : RequestRun α} {es : List RequestEvent}
      (services : List Nat) (readiness : Readiness) : Scripted limiter ms fresh r es →
      Scripted limiter ms fresh (r.setReadiness ms services readiness).1
        (es ++ (r.setReadiness ms services readiness).2)
  | tryAcquire {ms : Nat} {fresh : RequestId} {r : RequestRun α} {es : List RequestEvent} :
      Scripted limiter ms fresh r es → Scripted limiter ms fresh (r.tryAcquire ms).2 es
  | advance {ms target : Nat} {fresh : RequestId} {r : RequestRun α} {es : List RequestEvent}
      (hle : ms ≤ target) : Scripted limiter ms fresh r es →
      Scripted limiter target fresh (r.advance ms target).1 (es ++ (r.advance ms target).2)

theorem Scripted.scheduled (h : limiter.waiters = []) {ms : Nat} {r : RequestRun α}
    (hscript : Scripted limiter ms fresh r es) : Scheduled limiter fresh r.layer es := by
  induction hscript with
  | start => exact scheduled_new h
  | @send ms fresh r es c s above _ ih =>
    have hsent : Scheduled limiter (c.id + 1) (r.layer.send c (Clock.instantOf ms)).1
      (es ++ (r.layer.send c (Clock.instantOf ms)).2) := ih.send c above _
    have hmore := Scheduled.settle
      (r := { r with
        layer := (r.layer.send c (Clock.instantOf ms)).1, scripts := r.scripts ++ [s] }) hsent ms
    rwa [List.append_assoc] at hmore
  | @setReadiness ms fresh r es services readiness _ ih =>
    have hset : ∀ (services : List Nat) (l : RequestLayer α), Scheduled limiter fresh l es →
        Scheduled limiter fresh (services.foldl (·.setReadiness · readiness) l) es := by
      intro services
      induction services with
      | nil => exact fun l h => h
      | cons k services ihk => exact fun l h => ihk _ (h.setReadiness k readiness)
    exact Scheduled.settle (r := { r with
      layer := services.foldl (·.setReadiness · readiness) r.layer }) (hset services r.layer ih) ms
  | tryAcquire _ ih => exact ih.tryAcquire _
  | advance hle _ ih => exact ih.advance hle

/-- **Requests with scripted replies are accounted for.** Whatever is done to them is a run of
a dispatcher over the same limiter, with the same requests on their way and the same seen. -/
theorem Scripted.accounted (h : limiter.waiters = []) {ms : Nat} {r : RequestRun α}
    (hscript : Scripted limiter ms fresh r es) :
    ∃ (d : Dispatcher α) (all : List Event), d.layer = r.layer ∧ seen all = es ∧
      Accounted d all ∧ InLine d := by
  obtain ⟨acts, hlayer, -, hseen, -⟩ := hscript.scheduled h
  exact ⟨_, _, hlayer, hseen, (kept_run limiter acts).accounted, inLine_run limiter acts⟩

end ClusterAgent.Dispatcher
