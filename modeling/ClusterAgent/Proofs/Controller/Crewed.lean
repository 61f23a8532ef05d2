/-
A controller of a station is a crew at work.

A station does at once everything that is due at a millisecond, for one controller after
the other.  For each of them alone this is a run of a crew whose tasks take their turns in
a certain order, while others use the limiter, the services and the catalog that it shares
with them.

* `Station.Leaves` — what is done for one controller leaves the others and their requests
  alone;
* `Station.crew` — a controller of a station, as a crew between its waits;
* `Station.discover_leads`, `Station.flushes_leads`, `Station.wakeAll_leads` — what a
  station does for its discovery task, its flush task and its workers;
* `Station.work_leads` — and so everything it does for the controller is a run of the crew.

Design notes: a request of a controller that waits for a token is told from the plan of its
inquiry, which asks for something then.
-/
import ClusterAgent.Proofs.Controller.Leads
import ClusterAgent.Proofs.Controller.Stations

namespace ClusterAgent

/-! ### What is left to the others -/

namespace RequestLayer

variable {α : Type} {l : RequestLayer α} {id k : RequestId} {now : Instant}

/-- All services are ready, and so nothing waits for one. -/
structure Open (l : RequestLayer α) : Prop where
  ready : ∀ i, l.readiness i = .ready
  queued : l.queued = []

theorem Open.dispatch (h : ∀ i, l.readiness i = .ready) (now : Instant) :
    (l.dispatch now).1.Open := by
  rw [dispatch_of_ready h]
  exact ⟨h, rfl⟩

theorem Open.reply (h : l.Open) (id : RequestId) (r : Reply) (now : Instant) :
    (l.reply id r now).1.Open where
  ready := by
    rw [readiness_reply]
    exact h.ready
  queued := by rw [queued_reply, h.queued]

/-- To hand over what was sent meanwhile moves nothing of those who sent nothing. -/
theorem traces_dispatch_of_same {before : RequestLayer α} (h : before.Open)
    (hready : ∀ i, l.readiness i = .ready) (hsame : l.traces k = before.traces k) :
    (l.dispatch now).1.traces k = before.traces k := by
  have hnone : (before.traces k).queued = [] := by
    rw [traces, h.queued]
    rfl
  rw [traces_dispatch_of_ready hready, hsame, hnone, List.append_nil, ← hnone]

end RequestLayer

/-- To carry a plan on leaves the requests of others alone. -/
theorem Plan.attend_leaves {α β : Type} [TokenArithmetic α] (answer : String → Fetched)
    (id : RequestId) (now : Instant) (plan : Plan β) (asked : Bool) {layer : RequestLayer α}
    (h : layer.Open) :
    (plan.attend answer id now asked layer).1.Open ∧
      ∀ k ≠ id, (plan.attend answer id now asked layer).1.traces k = layer.traces k := by
  induction plan generalizing asked layer with
  | done result => exact ⟨h, fun _ _ => rfl⟩
  | ask path resume ih =>
    rw [attend_request]
    set sent := layer.sendUnless asked (Call.onBehalf id path) now
    have hready : ∀ i, sent.1.readiness i = .ready := by
      rw [RequestLayer.readiness_sendUnless]
      exact h.ready
    have hsame : ∀ k ≠ id, sent.1.traces k = layer.traces k := fun k hk =>
      RequestLayer.traces_sendUnless_of_ne layer asked hk now
    have hopen := RequestLayer.Open.dispatch hready now
    have hothers : ∀ k ≠ id, (sent.1.dispatch now).1.traces k = layer.traces k := fun k hk =>
      RequestLayer.traces_dispatch_of_same h hready (hsame k hk)
    dsimp only
    split
    · obtain ⟨hopen', hothers'⟩ := ih (answer path) false (hopen.reply id (answer path).reply now)
      refine ⟨hopen', fun k hk => ?_⟩
      rw [hothers' k hk, RequestLayer.traces_reply_of_ne _ hk, hothers k hk]
    · exact ⟨hopen, hothers⟩

namespace Station

variable {α : Type} {s t u : Station α} {k : Nat}

/-- What happened on behalf of one controller left the others and their requests alone. -/
structure Leaves (k : Nat) (s t : Station α) : Prop where
  opened : t.layer.Open
  length : t.controllers.length = s.controllers.length
  controllers : ∀ i ≠ k, t.controllers[i]? = s.controllers[i]?
  traces : ∀ i ≠ k, t.layer.traces i = s.layer.traces i

namespace Leaves

theorem refl (h : s.layer.Open) : Leaves k s s := ⟨h, rfl, fun _ _ => rfl, fun _ _ => rfl⟩

theorem trans (hst : Leaves k s t) (htu : Leaves k t u) : Leaves k s u where
  opened := htu.opened
  length := htu.length.trans hst.length
  controllers := fun i hi => (htu.controllers i hi).trans (hst.controllers i hi)
  traces := fun i hi => (htu.traces i hi).trans (hst.traces i hi)

theorem put (h : Leaves k s t) (r : Controller α) : Leaves k s (t.put k r) where
  opened := h.opened
  length := List.length_set.trans h.length
  controllers := fun i hi => (List.getElem?_set_ne hi.symm).trans (h.controllers i hi)
  traces := h.traces

end Leaves

variable [TokenArithmetic α]

theorem inquire_leaves (answer : String → Fetched) (now : Instant) (k : Nat) (r : Controller α)
    (asked : Bool) (h : s.layer.Open) : Leaves k s (inquire answer now k r asked s).1 := by
  unfold inquire
  split
  · rename_i plan _
    obtain ⟨hopen, hothers⟩ := plan.attend_leaves answer k now asked h
    exact ⟨hopen, List.length_set, fun i hi => List.getElem?_set_ne hi.symm, hothers⟩
  · exact (Leaves.refl h).put r

theorem discover_leaves (answer : String → Fetched) (now : Instant) (k fuel : Nat)
    (h : s.layer.Open) : Leaves k s (discover answer now k fuel s).1 := by
  induction fuel generalizing s with
  | zero => exact .refl h
  | succ fuel ih =>
    unfold discover
    split
    · exact .refl h
    · rename_i r _
      dsimp only
      split
      · exact (Leaves.refl h).put _
      · have hfirst := inquire_leaves answer now k (r.tickDiscovery now)
          (s.layer.sent.any (·.1.id == k)) h
        exact hfirst.trans (ih hfirst.opened)

theorem work_leaves (answer : String → Fetched) (now : Instant) (k : Nat) (h : s.layer.Open) :
    Leaves k s (work answer now k s).1 := by
  unfold work
  split
  · exact .refl h
  · rename_i r _
    have hdiscovered := discover_leaves answer now k (discoveryBacklog r now) h
    dsimp only
    split
    · exact hdiscovered
    · exact hdiscovered.put _

end Station

/-! ### A controller between its waits -/

namespace Task

variable {σ τ : Type}

/-- A task that is at the same, in other words. -/
def map (f : σ → τ) : Task σ → Task τ
  | running state => running (f state)
  | ended => ended
  | panicked cause => panicked cause

theorem isRunning_map (f : σ → τ) (t : Task σ) : (t.map f).isRunning = t.isRunning := by
  cases t <;> rfl

end Task

/-- What the discovery task is at, if an inquiry that asks for something awaits it. -/
def Refresher.errand : Refresher → Errand
  | .spawned period => .spawned period
  | .resting ticker => .resting ticker
  | .inquiring ticker plan => .inquiring ticker plan plan.asks

namespace Controller

variable {α : Type}

/-- The discovery task of a controller, by the number of the controller and what it shares. -/
def refreshing (r : Controller α) (id : RequestId) (layer : RequestLayer α) (catalog : Catalog) :
    Refreshing α :=
  ⟨id, layer, catalog, r.correlator, r.discovery.map Refresher.errand⟩

/-- The flush task and the workers of a controller. -/
def relisting (r : Controller α) : Relisting :=
  ⟨r.flush, ⟨r.relist.generation, r.relist.generation, !r.flush.isRunning⟩,
    r.relist.workers.map (Task.map .parked)⟩

/-- The same controller with its workers at something else. -/
def withWorkers (r : Controller α) (workers : List (Task Nat)) : Controller α :=
  { r with relist := { r.relist with workers } }

/-- No worker that runs is ahead of the newest generation, and each knows whether any is to come. -/
def Tidy (r : Controller α) : Prop :=
  ∀ seen, .running seen ∈ r.relist.workers →
    seen ≤ r.relist.generation ∧ r.relist.closed = !r.flush.isRunning

end Controller

namespace Station

variable {α : Type}

/-- A controller of a station as a crew. -/
def crew (s : Station α) (k : Nat) (r : Controller α) (now : Instant) (handle : StopHandle) :
    Crew α :=
  ⟨now, r.refreshing k s.layer s.catalog, r.relisting, handle⟩

end Station

/-! ### Flushes and workers -/

theorem Relisting.tick_of_not_due {r : Relisting} {now : Instant} {ticker : Ticker}
    (hflush : r.flush = .running (.ticking ticker)) (hdue : ¬ ticker.isDue now = true) :
    r.tick now = (r, []) := by
  rw [tick, hflush]
  exact if_neg hdue

theorem Controller.tickFlush_of_not_due {α : Type} {r : Controller α} {now : Instant}
    {ticker : Ticker} (hflush : r.flush = .running (.ticking ticker))
    (hdue : ¬ ticker.isDue now = true) : r.tickFlush now = (r, []) := by
  rw [tickFlush, hflush]
  exact if_neg hdue

namespace Station

variable {α : Type} [TokenArithmetic α]

omit [TokenArithmetic α] in
theorem relisting_tick (r : Controller α) (now : Instant) :
    r.relisting.tick now = ((r.tickFlush now).1.relisting, (r.tickFlush now).2) := by
  obtain ⟨discovery, correlator, flush, relist⟩ := r
  rcases flush with (period | ticker) | _ | cause
  · rfl
  · by_cases hdue : ticker.isDue now = true
    · cases htick : ticker.tick now with
      | ok later =>
        simp only [Relisting.tick, Controller.tickFlush, Controller.relisting, hdue, htick, if_true,
          Bulletin.renew, Relist.flush, Task.isRunning]
      | error cause =>
        simp only [Relisting.tick, Controller.tickFlush, Controller.relisting, hdue, htick, if_true,
          Bulletin.close, Relist.close, Task.isRunning, Bool.not_false]
    · rw [Controller.tickFlush_of_not_due rfl hdue]
      exact Relisting.tick_of_not_due rfl hdue
  · rfl
  · rfl

omit [TokenArithmetic α] in
theorem tickFlush_eq (r : Controller α) (now : Instant) :
    (r.tickFlush now).1 = { r with
      flush := (r.tickFlush now).1.flush
      relist := (r.tickFlush now).1.relist } := by
  unfold Controller.tickFlush
  split
  · split
    · split <;> rfl
    · rfl
  · rfl

theorem tickFlush_leads (s : Station α) (k : Nat) (r : Controller α) (now : Instant)
    (handle : StopHandle) :
    (s.crew k r now handle).Leads (r.tickFlush now).2
      (s.crew k (r.tickFlush now).1 now handle) := by
  have hstep : (s.crew k r now handle).Leads (r.tickFlush now).2
      { s.crew k r now handle with relisting := (r.tickFlush now).1.relisting } :=
    Crew.leads_relist (a := .tick) (relisting_tick r now)
  rw [tickFlush_eq]
  rw [tickFlush_eq] at hstep
  exact hstep

end Station

namespace Controller.Tidy

variable {α : Type} {r : Controller α}

theorem tickFlush (h : r.Tidy) (now : Instant) : (r.tickFlush now).1.Tidy := by
  unfold Controller.tickFlush
  split
  · rename_i ticker hflush
    split
    · split
      · intro seen hseen
        obtain ⟨hle, hclosed⟩ := h seen hseen
        rw [hflush] at hclosed
        exact ⟨hle.trans (Nat.le_succ _), hclosed⟩
      · intro seen hseen
        exact ⟨(h seen hseen).1, rfl⟩
    · exact h
  · exact h

/-- A worker that looked is not ahead of the newest generation either. -/
theorem look (h : r.Tidy) {resources id seen : Nat} {w : Task Nat} (hw : w ∈ r.relist.workers)
    (hseen : (r.relist.look resources id w).1 = .running seen) :
    seen ≤ r.relist.generation ∧ r.relist.closed = !r.flush.isRunning := by
  cases w with
  | running before =>
    have hbefore := h before hw
    rw [Relist.look] at hseen
    split at hseen
    · cases hseen
      exact ⟨le_rfl, hbefore.2⟩
    · dsimp only at hseen
      split at hseen
      · cases hseen
      · cases hseen
        exact hbefore
  | ended => cases hseen
  | panicked cause => cases hseen

end Controller.Tidy

namespace Station

variable {α : Type} [TokenArithmetic α] {s : Station α} {k : Nat} {now : Instant}
  {handle : StopHandle}

theorem flushes_leads (s : Station α) (k : Nat) (now : Instant) (handle : StopHandle) (fuel : Nat)
    {r : Controller α} (h : r.Tidy) :
    (s.crew k r now handle).Leads (flushes now fuel r).2
        (s.crew k (flushes now fuel r).1 now handle) ∧
      (flushes now fuel r).1.Tidy := by
  induction fuel generalizing r with
  | zero => exact ⟨.refl _, h⟩
  | succ fuel ih =>
    unfold flushes
    split
    · split
      · obtain ⟨hrest, htidy⟩ := ih (h.tickFlush now)
        exact ⟨(tickFlush_leads s k r now handle).trans hrest, htidy⟩
      · exact ⟨.refl _, h⟩
    · exact ⟨.refl _, h⟩

omit [TokenArithmetic α] in
theorem relisting_set (r : Controller α) (id : Nat) (w : Task Nat) :
    { r.relisting with workers := r.relisting.workers.set id (w.map .parked) } =
      (r.withWorkers (r.relist.workers.set id w)).relisting := by
  simp only [Controller.relisting, Controller.withWorkers, List.map_set]

/-- A worker that does nothing is where it is. -/
theorem still_leads (s : Station α) (k : Nat) (now : Instant) (handle : StopHandle)
    {r : Controller α}
    {id : Nat} {w : Task Nat} (hw : r.relist.workers[id]? = some w) :
    (s.crew k r now handle).Leads []
      (s.crew k (r.withWorkers (r.relist.workers.set id w)) now handle) := by
  rw [← (List.getElem?_eq_some_iff.mp hw).2, List.set_getElem_self]
  exact .refl _

omit [TokenArithmetic α] in
theorem relisting_worker {r : Controller α} {id seen : Nat}
    (hw : r.relist.workers[id]? = some (.running seen)) :
    r.relisting.workers[id]? = some (.running (.parked seen)) := by
  simp [Controller.relisting, hw, Task.map]

/-- A worker that looks for a newer generation looks for news, and reads them if there are any. -/
theorem look_leads (s : Station α) (k : Nat) (now : Instant) (handle : StopHandle)
    {r : Controller α} (h : r.Tidy) {id : Nat} {w : Task Nat}
    (hw : r.relist.workers[id]? = some w) :
    let looked := r.relist.look s.catalog.size id w
    (s.crew k r now handle).Leads looked.2
      (s.crew k (r.withWorkers (r.relist.workers.set id looked.1)) now handle) := by
  intro looked
  cases w with
  | ended => exact still_leads s k now handle hw
  | panicked cause => exact still_leads s k now handle hw
  | running seen =>
    obtain ⟨hle, hclosed⟩ := h seen (List.mem_of_getElem? hw)
    have hparked := relisting_worker hw
    have hlook := Crew.leads_relist (s := s.crew k r now handle) (a := .look id)
      (Relisting.move_of_running r.relisting hparked fun w => (w.look r.relisting.bulletin, []))
    by_cases hnews : seen < r.relist.generation
    · have hlooked : looked = (.running r.relist.generation,
          [.logged (.relistPickedUp id r.relist.generation s.catalog.size)]) := by
        simp only [looked, Relist.look, if_pos hnews]
      have htold : (Worker.parked seen).look r.relisting.bulletin =
          .running (.told r.relist.generation) := if_pos hnews.ne
      rw [hlooked]
      rw [htold] at hlook
      -- The worker has been told, and reads the generation next.
      set told := { r.relisting with
        workers := r.relisting.workers.set id (.running (.told r.relist.generation)) }
      have hget : told.workers[id]? = some (.running (.told r.relist.generation)) :=
        List.getElem?_set_self (List.getElem?_eq_some_iff.mp hparked).1
      have hread : told.step now s.catalog.size (s.crew k r now handle).isCalledOff (.read id) =
          ((r.withWorkers (r.relist.workers.set id (.running r.relist.generation))).relisting,
            [.logged (.relistPickedUp id r.relist.generation s.catalog.size)]) := by
        rw [Relisting.step, Relisting.move_of_running told hget, ← relisting_set]
        simp only [told, Worker.read, List.set_set]
        rfl
      exact hlook.after
        (Crew.leads_relist (s := { s.crew k r now handle with relisting := told }) hread)
    · have hlooked : looked = (if r.relist.closed then .ended else .running seen, []) := by
        simp only [looked, Relist.look, if_neg hnews]
      have hidle : (Worker.parked seen).look r.relisting.bulletin = looked.1.map .parked := by
        have hsame : ¬ seen ≠ r.relisting.bulletin.version :=
          not_not.mpr (hle.antisymm (Nat.le_of_not_lt hnews))
        have hclosed' : r.relisting.bulletin.closed = r.relist.closed := hclosed.symm
        rw [hlooked, Worker.look, if_neg hsame, hclosed']
        cases r.relist.closed <;> rfl
      rw [hidle, relisting_set] at hlook
      rw [hlooked] at hlook ⊢
      exact hlook

omit [TokenArithmetic α] in
theorem tidy_look {r : Controller α} (h : r.Tidy) (resources id : Nat) {w : Task Nat}
    (hw : w ∈ r.relist.workers) :
    (r.withWorkers (r.relist.workers.set id (r.relist.look resources id w).1)).Tidy := by
  intro seen hseen
  rcases List.mem_or_eq_of_mem_set hseen with hold | hnew
  · exact h seen hold
  · exact h.look hw hnew.symm

/-- What each worker comes to by itself, they come to one after the other. -/
theorem sweep_leads {P : Controller α → Prop} {f : Nat → Task Nat → Task Nat × List Notice}
    (hturn : ∀ (r : Controller α) (id : Nat) (w : Task Nat), P r →
      r.relist.workers[id]? = some w →
      let after := r.withWorkers (r.relist.workers.set id (f id w).1)
      (s.crew k r now handle).Leads (f id w).2 (s.crew k after now handle) ∧ P after)
    (back : List (Task Nat)) {front : List (Task Nat)} {r : Controller α} (h : P r)
    (hworkers : r.relist.workers = front ++ back) :
    let turned := (back.zipIdx front.length).map fun (w, id) => f id w
    let swept := r.withWorkers (front ++ turned.map (·.1))
    (s.crew k r now handle).Leads (turned.flatMap (·.2)) (s.crew k swept now handle) ∧ P swept := by
  -- By induction on those who have not had their turn yet.
  induction back generalizing front r with
  | nil =>
    intro turned swept
    have hsame : swept = r := by
      simp only [swept, turned, Controller.withWorkers, List.zipIdx_nil, List.map_nil, ← hworkers]
    rw [hsame]
    exact ⟨.refl _, h⟩
  | cons w back ih =>
    have hget : r.relist.workers[front.length]? = some w := by
      rw [hworkers, List.getElem?_append_right le_rfl, Nat.sub_self]
      rfl
    obtain ⟨hfirst, hafter⟩ := hturn r front.length w h hget
    have hset : r.relist.workers.set front.length (f front.length w).1 =
        (front ++ [(f front.length w).1]) ++ back := by
      rw [hworkers, List.set_append_right _ _ le_rfl, Nat.sub_self, List.append_assoc]
      rfl
    rw [hset] at hfirst hafter
    obtain ⟨hrest, hswept⟩ := ih hafter rfl
    simp only [List.length_append, List.length_singleton, List.append_assoc, List.singleton_append]
      at hfirst hrest hswept
    simp only [List.zipIdx_cons, List.map_cons, List.flatMap_cons]
    exact ⟨hfirst.trans hrest, hswept⟩

theorem wakeAll_leads (s : Station α) (k : Nat) (now : Instant) (handle : StopHandle)
    {r : Controller α} (h : r.Tidy) :
    let woken := r.relist.wakeAll s.catalog.size
    (s.crew k r now handle).Leads woken.2 (s.crew k { r with relist := woken.1 } now handle) ∧
      Controller.Tidy { r with relist := woken.1 } := by
  -- The generation stays the same meanwhile, and so does what a worker sees.
  let Same (t : Controller α) : Prop :=
    t.Tidy ∧ t.relist.generation = r.relist.generation ∧ t.relist.closed = r.relist.closed
  have hturn (t : Controller α) (id : Nat) (w : Task Nat) (ht : Same t)
      (hw : t.relist.workers[id]? = some w) :
      let after := t.withWorkers (t.relist.workers.set id (r.relist.look s.catalog.size id w).1)
      (s.crew k t now handle).Leads (r.relist.look s.catalog.size id w).2
        (s.crew k after now handle) ∧
        Same after := by
    obtain ⟨htidy, hgeneration, hclosed⟩ := ht
    rw [← Relist.look_congr hgeneration hclosed]
    exact ⟨look_leads s k now handle htidy hw, tidy_look htidy _ _ (List.mem_of_getElem? hw),
      hgeneration, hclosed⟩
  have hsame : Same r := ⟨h, rfl, rfl⟩
  obtain ⟨hswept, htidy, -⟩ := sweep_leads hturn r.relist.workers hsame (List.nil_append _).symm
  exact ⟨hswept, htidy⟩

/-! ### Discoveries -/

/-- A discovery that begins has sent nothing yet. -/
theorem tickDiscovery_leads (s : Station α) (k : Nat) {r : Controller α} (now : Instant)
    (handle : StopHandle) (h : r.inquiry? = none) :
    match (r.tickDiscovery now).inquiry? with
    | none => (s.crew k r now handle).Leads [] (s.crew k (r.tickDiscovery now) now handle)
    | some (ticker, plan) => (s.crew k r now handle).Leads []
        ((s.crew k r now handle).inquiring s.layer ticker plan false) := by
  cases hdiscovery : r.discovery with
  | ended | panicked cause =>
    have hsame : r.tickDiscovery now = r := by
      simp only [Controller.tickDiscovery, Controller.resting?, hdiscovery]
    rw [hsame, h]
    exact .refl _
  | running state =>
    cases state with
    | spawned period =>
      have hsame : r.tickDiscovery now = r := by
        simp only [Controller.tickDiscovery, Controller.resting?, hdiscovery]
      rw [hsame, h]
      exact .refl _
    | inquiring ticker plan => simp [Controller.inquiry?, hdiscovery] at h
    | resting ticker =>
      have hresting : r.resting? = some ticker := by
        simp only [Controller.resting?, hdiscovery]
      have htask : (r.refreshing k s.layer s.catalog).task = .running (.resting ticker) := by
        rw [Controller.refreshing, hdiscovery]
        rfl
      by_cases hdue : ticker.isDue now = true
      · have hbegan : r.tickDiscovery now = { r with
            discovery := Task.begin ((ticker.tick now).map (.inquiring · Discovery.run.run)) } := by
          simp only [Controller.tickDiscovery, hresting, hdue, if_true]
        have hstep : (s.crew k r now handle).refreshing.step now
              (s.crew k r now handle).isCalledOff .tick =
            ({ r.refreshing k s.layer s.catalog with
                task := Task.begin ((ticker.tick now).map (.inquiring · Discovery.run.run false)) },
              []) := by
          simp only [Refreshing.step, Refreshing.tick, crew, htask, hdue, if_true]
        have htick := Crew.leads_refresh hstep
        rw [hbegan]
        generalize Discovery.run.run = plan at htick ⊢
        generalize ticker.tick now = next at htick ⊢
        cases next with
        | ok later => exact htick
        | error cause => exact htick
      · have hsame : r.tickDiscovery now = r := by
          unfold Controller.tickDiscovery
          rw [hresting]
          exact if_neg hdue
        rw [hsame, h]
        exact .refl _

theorem inquire_leads (answer : String → Fetched) {o : ControllerOptions}
    {r : Controller α} {ticker : Ticker} {plan : Plan Refresh} {asked : Bool}
    (hopen : s.layer.Open) (hk : k < s.controllers.length)
    (hinquiry : r.inquiry? = some (ticker, plan)) (hasked : asked = true → plan.asks = true)
    (hkept : ((s.crew k r now handle).inquiring s.layer ticker plan asked).Kept k o) :
    ∃ r', (inquire answer now k r asked s).1.controllers[k]? = some r' ∧
      r'.flush = r.flush ∧ r'.relist = r.relist ∧
      ((s.crew k r now handle).inquiring s.layer ticker plan asked).Leads
        (inquire answer now k r asked s).2
        ((inquire answer now k r asked s).1.crew k r' now handle) := by
  have hattend := Crew.leads_attend answer plan hkept hopen.ready rfl hasked
  unfold inquire
  rw [hinquiry]
  change let attended := plan.attend answer k now asked s.layer
    ((s.crew k r now handle).inquiring s.layer ticker plan asked).Leads (noticesOf attended.2.1)
      ((s.crew k r now handle).inquiring attended.1 ticker attended.2.2 attended.2.2.asks)
        at hattend
  dsimp only at hattend ⊢
  rcases hattended : plan.attend answer k now asked s.layer with ⟨layer, events, next⟩
  rw [hattended] at hattend
  dsimp only at hattend ⊢
  rw [Controller.proceed_eq hinquiry]
  cases next with
  | ask path resume =>
    refine ⟨_, List.getElem?_set_self hk, rfl, rfl, ?_⟩
    rw [← List.append_nil (noticesOf events)] at hattend
    exact hattend
  | done refresh =>
    refine ⟨_, List.getElem?_set_self hk, rfl, rfl, ?_⟩
    set c := (s.crew k r now handle).inquiring layer ticker (.done refresh) false
    have hstep : c.refreshing.step c.now c.isCalledOff .conclude =
        ({ c.refreshing with
            task := .running (.resting ticker)
            correlator := (Controller.report r.correlator now refresh).1
            catalog := s.catalog.refreshed refresh },
          (Controller.report r.correlator now refresh).2.map .say) := rfl
    have hconclude := Crew.leads_refresh hstep
    rw [CrewEvent.notices_say] at hconclude
    exact hattend.trans hconclude

omit [TokenArithmetic α] in
theorem tickDiscovery_eq (r : Controller α) (now : Instant) :
    r.tickDiscovery now = { r with discovery := (r.tickDiscovery now).discovery } := by
  unfold Controller.tickDiscovery
  split
  · split <;> rfl
  · rfl

omit [TokenArithmetic α] in
theorem tickDiscovery_of_inquiry {r : Controller α} {ticker : Ticker} {plan : Plan Refresh}
    (h : r.inquiry? = some (ticker, plan)) : r.tickDiscovery now = r := by
  have hresting : r.resting? = none := by
    rw [Controller.resting?, Controller.discovery_of_inquiry? h]
  rw [Controller.tickDiscovery, hresting]

omit [TokenArithmetic α] in
/-- Whoever inquires awaits an answer if the plan asks for something. -/
theorem awaiting?_refreshing (r : Controller α) (id : RequestId) (layer : RequestLayer α)
    (catalog : Catalog) :
    (r.refreshing id layer catalog).awaiting?.isSome = r.inquiry?.any (·.2.asks) := by
  obtain ⟨discovery, correlator, flush, relist⟩ := r
  rcases discovery with (period | ticker | ⟨ticker, plan⟩) | _ | cause
  · rfl
  · rfl
  · cases plan <;> rfl
  · rfl
  · rfl

omit [TokenArithmetic α] in
/-- Who awaits nothing has sent nothing. -/
theorem sent_of_not_awaiting {r : Refreshing α} (h : r.Sound) (hnone : r.awaiting?.isSome = false) :
    r.layer.sent.any (·.1.id == r.id) = false := by
  have hsent : (r.layer.traces r.id).sent = [] := by
    rw [h.nothing (by simpa using hnone)]
    rfl
  refine List.any_eq_false.mpr fun q hq hid => ?_
  have hmem : q ∈ (r.layer.traces r.id).sent := List.mem_filter.mpr ⟨hq, hid⟩
  rw [hsent] at hmem
  cases hmem

theorem discover_leads (answer : String → Fetched) (fuel : Nat) {o : ControllerOptions}
    {r : Controller α} (hopen : s.layer.Open) (hget : s.controllers[k]? = some r)
    (hkept : (s.crew k r now handle).Kept k o) :
    ∃ r', (discover answer now k fuel s).1.controllers[k]? = some r' ∧
      r'.flush = r.flush ∧ r'.relist = r.relist ∧
      (s.crew k r now handle).Leads (discover answer now k fuel s).2
        ((discover answer now k fuel s).1.crew k r' now handle) := by
  induction fuel generalizing s r with
  | zero => exact ⟨r, hget, rfl, rfl, .refl _⟩
  | succ fuel ih =>
    have hk : k < s.controllers.length := (List.getElem?_eq_some_iff.mp hget).1
    have hbegun := tickDiscovery_eq r now
    -- Once an inquiry is under way, it is carried on, and then the next one.
    have hon {began : Controller α} {ticker : Ticker} {plan : Plan Refresh} (asked : Bool)
        (hinquiry : began.inquiry? = some (ticker, plan)) (hasked : asked = true → plan.asks = true)
        (hlead : (s.crew k r now handle).Leads []
          ((s.crew k began now handle).inquiring s.layer ticker plan asked)) :
        let first := inquire answer now k began asked s
        let rest := discover answer now k fuel first.1
        ∃ r', rest.1.controllers[k]? = some r' ∧
          r'.flush = began.flush ∧ r'.relist = began.relist ∧
          (s.crew k r now handle).Leads (first.2 ++ rest.2) (rest.1.crew k r' now handle) := by
      intro first rest
      obtain ⟨r₁, hget₁, hflush₁, hrelist₁, hinquire⟩ :=
        inquire_leads answer hopen hk hinquiry hasked (hlead.kept hkept)
      have hfirst := hlead.after hinquire
      have hopen₁ := (inquire_leaves answer now k began asked hopen).opened
      obtain ⟨r₂, hget₂, hflush₂, hrelist₂, hrest⟩ := ih hopen₁ hget₁ (hfirst.kept hkept)
      exact ⟨r₂, hget₂, hflush₂.trans hflush₁, hrelist₂.trans hrelist₁,
        hfirst.trans hrest⟩
    unfold discover
    rw [hget]
    dsimp only
    cases hinquiry : r.inquiry? with
    | none =>
      have hbegin := tickDiscovery_leads s k now handle hinquiry
      cases hbegan : (r.tickDiscovery now).inquiry? with
      | none =>
        rw [hbegan] at hbegin
        refine ⟨_, List.getElem?_set_self hk, ?_, ?_, hbegin⟩
        · rw [hbegun]
        · rw [hbegun]
      | some p =>
        obtain ⟨ticker, plan⟩ := p
        rw [hbegan] at hbegin
        have hnotsent : s.layer.sent.any (·.1.id == k) = false :=
          sent_of_not_awaiting hkept.sound (by simp [crew, awaiting?_refreshing, hinquiry])
        have hlead : (s.crew k r now handle).Leads []
            ((s.crew k (r.tickDiscovery now) now handle).inquiring s.layer ticker plan false) := by
          rw [hbegun]
          exact hbegin
        have hrest := hon false hbegan (fun h => absurd h Bool.false_ne_true) hlead
        rw [hnotsent, hbegun]
        rw [hbegun] at hrest
        exact hrest
    | some p =>
      obtain ⟨ticker, plan⟩ := p
      have hsame : r.tickDiscovery now = r := tickDiscovery_of_inquiry hinquiry
      rw [hsame]
      cases hsent : s.layer.sent.any (·.1.id == k) with
      | false => exact ⟨r, List.getElem?_set_self hk, rfl, rfl, .refl _⟩
      | true =>
        have hasks : plan.asks = true := by
          by_contra hnot
          have hnotsent := sent_of_not_awaiting hkept.sound
            (by simp [crew, awaiting?_refreshing, hinquiry, hnot])
          exact Bool.noConfusion (hsent.symm.trans hnotsent)
        have htask : (s.crew k r now handle).refreshing.task =
            .running (.inquiring ticker plan true) := by
          show r.discovery.map Refresher.errand = _
          rw [Controller.discovery_of_inquiry? hinquiry, Task.map, Refresher.errand, hasks]
        exact hon true hinquiry (fun _ => hasks) (Crew.leads_inquiring htask)

/-! ### Everything that is due -/

/-- What a station does for one controller at a millisecond is a run of the crew. -/
theorem work_leads (answer : String → Fetched) {o : ControllerOptions} {r : Controller α}
    (hopen : s.layer.Open) (hget : s.controllers[k]? = some r) (htidy : r.Tidy)
    (hkept : (s.crew k r now handle).Kept k o) :
    ∃ r', (work answer now k s).1.controllers[k]? = some r' ∧ r'.Tidy ∧
      (s.crew k r now handle).Leads (work answer now k s).2
        ((work answer now k s).1.crew k r' now handle) := by
  obtain ⟨r₁, hget₁, hflush₁, hrelist₁, hdiscover⟩ :=
    discover_leads answer (discoveryBacklog r now) hopen hget hkept
  have htidy₁ : r₁.Tidy := by
    unfold Controller.Tidy
    rw [hrelist₁, hflush₁]
    exact htidy
  unfold work
  rw [hget]
  dsimp only
  generalize discover answer now k (discoveryBacklog r now) s = discovered at hget₁ hdiscover ⊢
  have hk : k < discovered.1.controllers.length := (List.getElem?_eq_some_iff.mp hget₁).1
  rw [hget₁]
  dsimp only
  obtain ⟨hflushed, htidy₂⟩ :=
    flushes_leads discovered.1 k now handle (flushBacklog r₁ now) htidy₁
  generalize flushes now (flushBacklog r₁ now) r₁ = flushed at hflushed htidy₂ ⊢
  obtain ⟨hwoken, htidy₃⟩ := wakeAll_leads discovered.1 k now handle htidy₂
  exact ⟨_, List.getElem?_set_self hk, htidy₃, (hdiscover.trans hflushed).trans hwoken⟩

end Station

end ClusterAgent
