/-
Runs of a crew.

Whoever follows a crew from one wait to the next sees that whole stretches of what it does
are runs: a request tries again or is handed over together with those of others, and an
inquiry is carried on as far as it gets.

* `Crew.Leads` — a run leads from one state to another, and tells something on the way;
* `Crew.leads_wake`, `Crew.leads_dispatch` — what is done to all requests at once;
* `Crew.leads_attend` — a plan is carried on, one request after the other.

Design notes: what others do in between is arranged so that the request layer comes to be
what it is when all is done at once.
-/
import ClusterAgent.Controller.Station
import ClusterAgent.Proofs.Controller.Quiescence

namespace ClusterAgent

/-- Whether a plan asks for something. -/
def Plan.asks {β : Type} : Plan β → Bool
  | done _ => false
  | ask .. => true

theorem Station.noticesOf_append (xs ys : List RequestEvent) :
    noticesOf (xs ++ ys) = noticesOf xs ++ noticesOf ys := List.filterMap_append

/-- A plan that asks sends its request, and goes on if it is answered. -/
theorem Plan.attend_request {α β : Type} [TokenArithmetic α] (answer : String → Fetched)
    (id : RequestId) (now : Instant) (path : String) (resume : Fetched → Plan β) (asked : Bool)
    (layer : RequestLayer α) :
    (Plan.ask path resume).attend answer id now asked layer =
      let sent := layer.sendUnless asked (Call.onBehalf id path) now
      let dispatched := sent.1.dispatch now
      if dispatched.1.sent.any (·.1.id == id) then
        let replied := dispatched.1.reply id (answer path).reply now
        let later := (resume (answer path)).attend answer id now false replied.1
        (later.1, sent.2 ++ dispatched.2 ++ replied.2 ++ later.2.1, later.2.2)
      else (dispatched.1, sent.2 ++ dispatched.2, .ask path resume) := by
  rw [attend]
  rfl

namespace Crew

variable {α : Type} [TokenArithmetic α] {s t u : Crew α}

/-! ### Runs of a crew -/

/-- A run leads from one state to another, and tells this on the way. -/
def Leads (s : Crew α) (told : List Notice) (t : Crew α) : Prop :=
  ∃ actions, (s.run actions).1 = t ∧ CrewEvent.notices (s.run actions).2 = told

namespace Leads

variable {told more : List Notice}

theorem refl (s : Crew α) : s.Leads [] s := ⟨[], rfl, rfl⟩

theorem trans (hst : s.Leads told t) (htu : t.Leads more u) : s.Leads (told ++ more) u := by
  obtain ⟨xs, rfl, rfl⟩ := hst
  obtain ⟨ys, rfl, rfl⟩ := htu
  refine ⟨xs ++ ys, ?_, ?_⟩
  · rw [run_append]
  · rw [run_append]
    exact List.filterMap_append

theorem step (s : Crew α) (a : Action α) :
    s.Leads (CrewEvent.notices (s.step a).2) (s.step a).1 :=
  ⟨[a], rfl, congrArg CrewEvent.notices (List.append_nil _)⟩

theorem kept {id : RequestId} {o : ControllerOptions} (h : s.Leads told t) (hs : s.Kept id o) :
    t.Kept id o := by
  obtain ⟨actions, rfl, -⟩ := h
  exact kept_of_run hs actions

/-- What is done quietly first adds nothing to what is told. -/
theorem after (hst : s.Leads [] t) (htu : t.Leads told u) : s.Leads told u := hst.trans htu

end Leads

/-- The same crew with another state of the request layer. -/
def withLayer (s : Crew α) (layer : RequestLayer α) : Crew α :=
  { s with refreshing := { s.refreshing with layer } }

/-- Others do what they want, and leave the requests of this crew alone. -/
theorem leads_elsewhere (layer : RequestLayer α) (catalog : Catalog)
    (h : layer.traces s.refreshing.id = s.refreshing.layer.traces s.refreshing.id) :
    s.Leads [] { s with refreshing := { s.refreshing with layer, catalog } } := by
  have hstep := Leads.step s (.elsewhere layer catalog)
  rw [Crew.step, if_pos h] at hstep
  exact hstep

theorem leads_layer (layer : RequestLayer α)
    (h : layer.traces s.refreshing.id = s.refreshing.layer.traces s.refreshing.id) :
    s.Leads [] (s.withLayer layer) :=
  leads_elsewhere layer s.refreshing.catalog h

/-- A request that waits for a token tries again. -/
theorem leads_retry (hsome : s.refreshing.awaiting?.isSome = true)
    (hdrawing : s.refreshing.layer.drawing.any (·.id == s.refreshing.id) = true) :
    let retried := Limiter.retryAll s.now [s.refreshing.id] s.refreshing.layer.limiter
    s.Leads []
      (s.withLayer ({ s.refreshing.layer with limiter := retried.1 }.drawn retried.2 s.now)) := by
  intro retried
  have hstep := Leads.step s (.refresh .retry)
  rw [Crew.step, Refreshing.step, Refreshing.retry, hsome, hdrawing] at hstep
  rw [← CrewEvent.notices_drew retried.2]
  exact hstep

/-- If its service is ready, a request is handed over together with those of others. -/
theorem leads_dispatch (h : s.refreshing.Sound)
    (hready : ∀ i, s.refreshing.layer.readiness i = .ready) (now : Instant) :
    s.Leads [] (s.withLayer (s.refreshing.layer.dispatch now).1) := by
  set l := s.refreshing.layer with hl
  set id := s.refreshing.id with hid
  have hdispatched := RequestLayer.traces_dispatch_of_ready (k := id) hready now
  cases hqueued : (l.traces id).queued with
  | nil =>
    refine leads_layer _ (hdispatched.trans ?_)
    rw [hqueued, List.append_nil, ← hqueued]
  | cons q rest =>
    have hmem : q ∈ l.queued.filter (·.1.id == id) := by
      have hq : q ∈ (l.traces id).queued := by rw [hqueued]; exact List.mem_cons_self
      exact hq
    have hsome : s.refreshing.awaiting?.isSome = true := by
      by_contra hnone
      rw [h.nothing (by simpa using hnone)] at hqueued
      cases hqueued
    obtain ⟨resume, hawaiting⟩ := Option.isSome_iff_exists.mp hsome
    obtain ⟨⟨c, since⟩, hfind⟩ : ∃ q, l.queued.find? (·.1.id == id) = some q := by
      refine Option.isSome_iff_exists.mp (List.find?_isSome.mpr ?_)
      exact ⟨q, List.mem_filter.mp hmem⟩
    have hunderway := h.underway hsome
    have hstep := Leads.step s (.refresh .handOver)
    rw [Crew.step, Refreshing.step, Refreshing.handOver, hawaiting, ← hl, ← hid, hfind] at hstep
    dsimp only at hstep
    rw [hready c.service] at hstep
    refine hstep.after (leads_layer _ (hdispatched.trans ?_))
    rw [(RequestLayer.traces_of_queued hunderway hfind).2]
    exact (RequestLayer.traces_handOver hunderway hfind).symm

/-- The timers that ran off are heard of, one of which may be that of the request. -/
theorem leads_wake (h : s.refreshing.Sound) {ms : Nat} (hnow : s.now = Clock.instantOf ms) :
    s.Leads [] (s.withLayer (s.refreshing.layer.wake ms)) := by
  set l := s.refreshing.layer
  set id := s.refreshing.id
  have hone : (l.traces id).waiters.length ≤ 1 := by
    by_cases hsome : s.refreshing.awaiting?.isSome = true
    · exact (h.underway hsome).waiters_le_one
    · rw [h.nothing (by simpa using hsome)]
      exact Nat.zero_le _
  rcases l.wake_cases ms hone with hsame | ⟨hwaits, limiter, hsame, hretried⟩
  · exact leads_layer _ hsame
  · have hsome : s.refreshing.awaiting?.isSome = true := by
      by_contra hnone
      exact hwaits (by rw [h.nothing (by simpa using hnone)]; rfl)
    have hdrawing : l.drawing.any (·.id == id) = true := by
      obtain ⟨c, hc⟩ := List.exists_mem_of_ne_nil _ ((h.underway hsome).drawing_of_waiters hwaits)
      obtain ⟨hc, hid⟩ := List.mem_filter.mp hc
      exact List.any_eq_true.mpr ⟨c, hc, hid⟩
    -- The others try first, then this request, then the rest of them.
    have hfirst := leads_layer (s := s) { l with limiter } hsame
    have hretry := leads_retry (s := s.withLayer { l with limiter }) hsome hdrawing
    rw [← hnow] at hretried
    exact (hfirst.after hretry).after (leads_layer _ hretried)

theorem leads_refresh {a : Refreshing.Action} {moved : Refreshing α} {es : List CrewEvent}
    (h : s.refreshing.step s.now s.isCalledOff a = (moved, es)) :
    s.Leads (CrewEvent.notices es) { s with refreshing := moved } := by
  have hstep := Leads.step s (.refresh a)
  rw [Crew.step, h] at hstep
  exact hstep

theorem leads_relist {a : Relisting.Action} {moved : Relisting} {told : List Notice}
    (h : s.relisting.step s.now s.refreshing.catalog.size s.isCalledOff a = (moved, told)) :
    s.Leads told { s with relisting := moved } := by
  have hstep := Leads.step s (.relist a)
  rw [Crew.step, CrewEvent.notices_say, h] at hstep
  exact hstep

/-! ### Inquiries -/

/-- The same crew in the middle of an inquiry. -/
def inquiring (s : Crew α) (layer : RequestLayer α) (ticker : Ticker) (plan : Plan Refresh)
    (asked : Bool) : Crew α :=
  { s with refreshing :=
    { s.refreshing with layer, task := .running (.inquiring ticker plan asked) } }

variable {ticker : Ticker} {path : String} {resume : Fetched → Plan Refresh}

theorem leads_send (h : s.refreshing.task = .running (.inquiring ticker (.ask path resume) false)) :
    let sent := s.refreshing.layer.send (Call.onBehalf s.refreshing.id path) s.now
    s.Leads (Station.noticesOf sent.2) (s.inquiring sent.1 ticker (.ask path resume) true) := by
  intro sent
  have hstep := Leads.step s (.refresh .send)
  rw [Crew.step, Refreshing.step, Refreshing.send, h] at hstep
  have hdrew (granted : Bool) : CrewEvent.notices
      ((if granted then [CrewEvent.drew] else []) ++ sent.2.map .seen) =
        Station.noticesOf sent.2 := by
    rw [Station.noticesOf, ← CrewEvent.notices_seen]
    cases granted <;> rfl
  rw [← hdrew]
  exact hstep

theorem leads_answer (h : s.refreshing.task = .running (.inquiring ticker (.ask path resume) true))
    (hsent : s.refreshing.layer.sent.any (·.1.id == s.refreshing.id) = true) (fetched : Fetched) :
    let replied := s.refreshing.layer.reply s.refreshing.id fetched.reply s.now
    s.Leads (Station.noticesOf replied.2)
      (s.inquiring replied.1 ticker (resume fetched) false) := by
  intro replied
  have hstep := Leads.step s (.refresh (.answer fetched))
  rw [Crew.step, Refreshing.step, Refreshing.answer, Refreshing.awaiting?, h] at hstep
  dsimp only at hstep
  rw [if_pos hsent] at hstep
  rw [Station.noticesOf, ← CrewEvent.notices_seen]
  exact hstep

/-- A crew in the middle of an inquiry is where it is. -/
theorem leads_inquiring {plan : Plan Refresh} {asked : Bool}
    (h : s.refreshing.task = .running (.inquiring ticker plan asked)) :
    s.Leads [] (s.inquiring s.refreshing.layer ticker plan asked) := by
  have hsame : s.inquiring s.refreshing.layer ticker plan asked = s := by
    rw [inquiring, ← h]
  rw [hsame]
  exact .refl s

/-- To carry a plan on is to send its requests, one after the other, and to have them answered. -/
theorem leads_attend {id : RequestId} {o : ControllerOptions} (answer : String → Fetched)
    (plan : Plan Refresh) {asked : Bool} (hkept : s.Kept id o)
    (hready : ∀ i, s.refreshing.layer.readiness i = .ready)
    (htask : s.refreshing.task = .running (.inquiring ticker plan asked))
    (hasked : asked = true → plan.asks = true) :
    let attended := plan.attend answer id s.now asked s.refreshing.layer
    s.Leads (Station.noticesOf attended.2.1)
      (s.inquiring attended.1 ticker attended.2.2 attended.2.2.asks) := by
  induction plan generalizing asked s with
  | done refresh =>
    have hnot : asked = false := Bool.eq_false_iff.mpr fun h => Bool.noConfusion (hasked h)
    subst hnot
    rw [Plan.attend]
    exact leads_inquiring htask
  | ask path resume ih =>
    obtain rfl := hkept.id_eq
    rw [Plan.attend_request]
    set sent := s.refreshing.layer.sendUnless asked (Call.onBehalf s.refreshing.id path) s.now
    -- The request is under way already, or it is sent now.
    have hsend : s.Leads (Station.noticesOf sent.2)
        (s.inquiring sent.1 ticker (.ask path resume) true) := by
      cases asked with
      | true => exact leads_inquiring htask
      | false => exact leads_send htask
    have hready' : ∀ i, sent.1.readiness i = .ready := by
      rw [RequestLayer.readiness_sendUnless]
      exact hready
    have hquiet : Station.noticesOf (sent.1.dispatch s.now).2 = [] := by
      rw [RequestLayer.dispatch_of_ready hready', Station.noticesOf, List.filterMap_map]
      exact List.filterMap_eq_nil_iff.mpr fun _ _ => rfl
    have hready'' : ∀ i, (sent.1.dispatch s.now).1.readiness i = .ready := by
      rw [RequestLayer.dispatch_of_ready hready']
      exact hready'
    have hdispatch := leads_dispatch (hsend.kept hkept).sound hready' s.now
    have hon : s.Leads (Station.noticesOf (sent.2 ++ (sent.1.dispatch s.now).2))
        (s.inquiring (sent.1.dispatch s.now).1 ticker (.ask path resume) true) := by
      rw [Station.noticesOf_append, hquiet]
      exact hsend.trans hdispatch
    dsimp only
    generalize sent.1.dispatch s.now = dispatched at hon hready'' ⊢
    split
    · rename_i hsent
      have hanswer := leads_answer
        (s := s.inquiring dispatched.1 ticker (.ask path resume) true) rfl
        hsent (answer path)
      have hboth := hon.trans hanswer
      have hrest := ih (answer path) (hboth.kept hkept)
        (fun i => by
          show (dispatched.1.reply s.refreshing.id (answer path).reply s.now).1.readiness i = _
          rw [RequestLayer.readiness_reply, hready''])
        rfl nofun
      have hall := hboth.trans hrest
      rw [Station.noticesOf_append, Station.noticesOf_append]
      exact hall
    · exact hon

end Crew

end ClusterAgent
