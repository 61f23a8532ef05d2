/-
To stop a controller of a station is a run of its crew.

A station stops a controller at once: its tasks are called off, those that did not run yet
do so, those that run heed the call, and all are joined in the order in which they were
spawned.  A crew does this one after the other, and may do other things in between.

* `Station.begin_leads` — the tasks that did not run yet do so;
* `Station.discovery_heeds_leads`, `Station.flush_heeds_leads`,
  `Station.workers_heed_leads` — whoever runs heeds the call;
* `Crew.leads_joins`, `Station.joined_leads` — the tasks are joined, and their panics told
  of;
* `Station.stop_leads` — so the crew is stopped when the station has stopped the
  controller, with the same outcome.
-/
import ClusterAgent.Proofs.Controller.Crewed

namespace ClusterAgent

/-! ### First runs -/

namespace Controller

variable {α : Type} (r : Controller α) (now : Instant)

theorem begin_discovery_ne (period : Span) :
    (r.begin now).discovery ≠ .running (.spawned period) := by
  rw [begin, beginFlush_discovery]
  obtain ⟨discovery, correlator, flush, relist⟩ := r
  rcases discovery with (p | ticker | ⟨ticker, plan⟩) | _ | cause
  · show Task.begin ((Ticker.starting now p).map Refresher.resting) ≠ _
    cases Ticker.starting now p <;>
      · intro h
        cases h
  all_goals
    intro h
    cases h

theorem begin_flush_ne (period : Span) : (r.begin now).flush ≠ .running (.spawned period) := by
  rw [begin]
  generalize r.beginDiscovery now = r
  obtain ⟨discovery, correlator, flush, relist⟩ := r
  rcases flush with (p | ticker) | _ | cause
  · rw [beginFlush]
    dsimp only
    cases Ticker.after now p <;>
      · intro h
        cases h
  all_goals
    intro h
    cases h

theorem refreshing_begin (id : RequestId) (layer : RequestLayer α) (catalog : Catalog) :
    (r.refreshing id layer catalog).begin now =
      (r.beginDiscovery now).refreshing id layer catalog := by
  obtain ⟨discovery, correlator, flush, relist⟩ := r
  rcases discovery with (p | ticker | ⟨ticker, plan⟩) | _ | cause
  · simp only [Refreshing.begin, Controller.refreshing, beginDiscovery, Task.map, Refresher.errand]
    cases Ticker.starting now p <;> rfl
  · rfl
  · rfl
  · rfl
  · rfl

theorem relisting_begin : r.relisting.begin now = (r.beginFlush now).relisting := by
  obtain ⟨discovery, correlator, flush, relist⟩ := r
  rcases flush with (p | ticker) | _ | cause
  · simp only [Relisting.begin, Controller.relisting, beginFlush]
    cases Ticker.after now p <;> rfl
  · rfl
  · rfl
  · rfl

theorem relisting_beginDiscovery : (r.beginDiscovery now).relisting = r.relisting := by
  rw [beginDiscovery_eq]
  rfl

theorem refreshing_beginFlush (id : RequestId) (layer : RequestLayer α) (catalog : Catalog) :
    (r.beginFlush now).refreshing id layer catalog = r.refreshing id layer catalog := by
  rw [beginFlush_eq]
  rfl

variable {r} in
theorem Tidy.begin (h : r.Tidy) : (r.begin now).Tidy := by
  have hdiscovery : (r.beginDiscovery now).Tidy := by
    rw [beginDiscovery_eq]
    exact h
  rw [Controller.begin]
  generalize r.beginDiscovery now = r at hdiscovery
  unfold beginFlush
  split
  · rename_i hspawned
    split
    · intro seen hseen
      obtain ⟨hle, hclosed⟩ := hdiscovery seen hseen
      rw [hspawned] at hclosed
      exact ⟨hle, hclosed⟩
    · intro seen hseen
      exact ⟨(hdiscovery seen hseen).1, rfl⟩
  · exact hdiscovery

end Controller

namespace Station

variable {α : Type} [TokenArithmetic α] {s : Station α} {k : Nat} {now : Instant}

/-- The tasks that did not run yet do so, one after the other. -/
theorem begin_leads (s : Station α) (k : Nat) (r : Controller α) (now : Instant)
    (handle : StopHandle) :
    (s.crew k r now handle).Leads [] (s.crew k (r.begin now) now handle) := by
  have hone : (s.crew k r now handle).Leads [] (s.crew k (r.beginDiscovery now) now handle) := by
    have hstep := Crew.leads_refresh (s := s.crew k r now handle) (a := .begin)
      (congrArg (·, []) (r.refreshing_begin now k s.layer s.catalog))
    have hcrew : s.crew k (r.beginDiscovery now) now handle =
        ⟨now, (r.beginDiscovery now).refreshing k s.layer s.catalog, r.relisting, handle⟩ := by
      rw [crew, r.relisting_beginDiscovery now]
    rw [hcrew]
    exact hstep
  refine hone.after ?_
  rw [Controller.begin]
  generalize r.beginDiscovery now = r
  have hstep := Crew.leads_relist (s := s.crew k r now handle) (a := .begin)
    (congrArg (·, []) (r.relisting_begin now))
  have hcrew : s.crew k (r.beginFlush now) now handle =
      ⟨now, r.refreshing k s.layer s.catalog, (r.beginFlush now).relisting, handle⟩ := by
    rw [crew, r.refreshing_beginFlush now]
  rw [hcrew]
  exact hstep

/-! ### The end of a controller -/

/-- The discovery task heeds the call, and its request is dropped. -/
theorem discovery_heeds_leads {o : ControllerOptions} {r : Controller α}
    {waiting : List Member} {panicked : Nat}
    (hbegun : ∀ period, r.discovery ≠ .running (.spawned period))
    (hkept : (s.crew k r now (.joining waiting panicked)).Kept k o) :
    (s.crew k r now (.joining waiting panicked)).Leads
      (if r.discovery.isRunning then [.logged .discoveryExiting] else [])
      ({ s with layer := s.layer.cancel k }.crew k { r with discovery := r.discovery.stop } now
        (.joining waiting panicked)) := by
  cases hinquiry : r.inquiry? with
  | some p =>
    obtain ⟨ticker, plan⟩ := p
    have hheed := Crew.leads_refresh (s := s.crew k r now (.joining waiting panicked))
      (a := .heed) rfl
    have hdiscovery := Controller.discovery_of_inquiry? hinquiry
    obtain ⟨discovery, correlator, flush, relist⟩ := r
    dsimp only at hdiscovery
    subst hdiscovery
    exact hheed
  | none =>
    -- Nothing is left of any request, so there is none to drop.
    have hawaiting : (r.refreshing k s.layer s.catalog).awaiting? = none := by
      simpa [hinquiry] using awaiting?_refreshing r k s.layer s.catalog
    have hnothing : s.layer.traces k = .nothing := hkept.sound.nothing hawaiting
    have hcancel : (s.crew k r now (.joining waiting panicked)).Leads []
        ({ s with layer := s.layer.cancel k }.crew k r now (.joining waiting panicked)) :=
      Crew.leads_layer _ ((s.layer.traces_cancel k).trans hnothing.symm)
    have hheed := Crew.leads_refresh (a := .heed)
      (s := { s with layer := s.layer.cancel k }.crew k r now (.joining waiting panicked)) rfl
    refine hcancel.after ?_
    obtain ⟨discovery, correlator, flush, relist⟩ := r
    rcases discovery with (period | ticker | ⟨ticker, plan⟩) | _ | cause
    · exact absurd rfl (hbegun period)
    · exact hheed
    · cases hinquiry
    · exact hheed
    · exact hheed

/-- The flush task heeds the call. -/
theorem flush_heeds_leads (s : Station α) (k : Nat) (r : Controller α) (now : Instant)
    (hbegun : ∀ period, r.flush ≠ .running (.spawned period))
    (waiting : List Member) (panicked : Nat) :
    (s.crew k r now (.joining waiting panicked)).Leads
      (if r.flush.isRunning then [.logged .flushExiting] else [])
      (s.crew k { r with flush := r.flush.stop } now (.joining waiting panicked)) := by
  have hheed := Crew.leads_relist (s := s.crew k r now (.joining waiting panicked))
    (a := .heed) rfl
  obtain ⟨discovery, correlator, flush, relist⟩ := r
  rcases flush with (period | ticker) | _ | cause
  · exact absurd rfl (hbegun period)
  · exact hheed
  · exact hheed
  · exact hheed

/-- A function that does not look at the places. -/
theorem map_zipIdx_fst {β γ : Type} (f : β → γ) (xs : List β) (k : Nat) :
    ((xs.zipIdx k).map fun (x, _) => f x) = xs.map f := by
  have hfst := congrArg (List.map f) (List.zipIdx_map_fst k xs)
  rw [List.map_map] at hfst
  exact hfst

/-- The workers heed the call, one after the other. -/
theorem workers_heed_leads (s : Station α) (k : Nat) (r : Controller α) (now : Instant)
    (waiting : List Member) (panicked : Nat) :
    (s.crew k r now (.joining waiting panicked)).Leads []
      (s.crew k { r with relist := r.relist.stop } now (.joining waiting panicked)) := by
  have hturn (t : Controller α) (id : Nat) (w : Task Nat) (_ : True)
      (hw : t.relist.workers[id]? = some w) :
      let after := t.withWorkers (t.relist.workers.set id w.stop)
      (s.crew k t now (.joining waiting panicked)).Leads []
        (s.crew k after now (.joining waiting panicked)) ∧ True := by
    refine ⟨?_, trivial⟩
    have hset := relisting_set t id w.stop
    cases w with
    | running seen =>
      have hparked := relisting_worker hw
      have hleave := Crew.leads_relist (s := s.crew k t now (.joining waiting panicked))
        (a := .leave id) (Relisting.move_of_running t.relisting hparked fun w => (w.leave, []))
      have hover : (Worker.parked seen).leave = (Task.running seen).stop.map .parked := rfl
      rw [hover, hset] at hleave
      exact hleave
    | ended => exact still_leads s k now _ hw
    | panicked cause => exact still_leads s k now _ hw
  have hswept := (sweep_leads (f := fun _ w => (w.stop, [])) hturn r.relist.workers
    (r := r) trivial (List.nil_append _).symm).1
  have hstopped := map_zipIdx_fst (fun w => (w.stop, ([] : List Notice))) r.relist.workers 0
  have hquiet : (r.relist.workers.map fun w => (w.stop, ([] : List Notice))).flatMap (·.2) = [] :=
    List.flatMap_eq_nil_iff.mpr fun p hp => by
      obtain ⟨w, -, rfl⟩ := List.mem_map.mp hp
      rfl
  simp only [List.length_nil, hstopped, hquiet, List.map_map, List.nil_append] at hswept
  exact hswept

end Station

namespace Crew

variable {α : Type} [TokenArithmetic α]

/-- Tasks that are over are joined in order, and their panics told of. -/
theorem leads_joins (ms : List Member) {c : Crew α} {panicked : Nat}
    (hhandle : c.handle = .joining ms panicked) (hover : ∀ m ∈ ms, (c.fate? m).isSome = true) :
    c.Leads ((c.panics ms).map fun cause => .logged (Controller.panicEvent cause))
      { c with handle := .joining [] (panicked + (c.panics ms).length) } := by
  induction ms generalizing c panicked with
  | nil =>
    have hsame : { c with handle := .joining [] (panicked + (c.panics []).length) } = c := by
      rw [panics, List.filterMap_nil, List.length_nil, Nat.add_zero, ← hhandle]
    rw [hsame]
    exact .refl c
  | cons m ms ih =>
    obtain ⟨fate, hfate⟩ := Option.isSome_iff_exists.mp (hover m List.mem_cons_self)
    have hrest (n : Nat) := @ih { c with handle := .joining ms n } n rfl
      fun m' hm' => hover m' (List.mem_cons_of_mem m hm')
    have hjoin := Leads.step c (.join m)
    rw [Crew.step, join, hhandle] at hjoin
    dsimp only at hjoin
    rw [if_pos List.mem_cons_self, hfate, List.erase_cons_head] at hjoin
    cases fate with
    | none =>
      have hpanics : c.panics (m :: ms) = c.panics ms := by
        simp [panics, hfate]
      rw [hpanics]
      exact hjoin.after (hrest panicked)
    | some cause =>
      have hpanics : c.panics (m :: ms) = cause :: c.panics ms := by
        simp [panics, hfate]
      rw [hpanics]
      rw [List.length_cons, Nat.add_comm (c.panics ms).length 1, ← Nat.add_assoc]
      exact hjoin.trans (hrest (panicked + 1))

end Crew

/-- Who goes through the places of a list comes across what stands in them. -/
theorem filterMap_range_getElem? {β γ : Type} (xs : List β) (f : β → Option γ) :
    (List.range xs.length).filterMap (fun i => xs[i]?.bind f) = xs.filterMap f := by
  induction xs using List.reverseRecOn with
  | nil => rfl
  | append_singleton xs x ih =>
    rw [List.length_append, List.length_singleton, List.range_succ, List.filterMap_append,
      List.filterMap_append, ← ih]
    congr 1
    · refine List.filterMap_congr fun i hi => ?_
      rw [List.getElem?_append_left (List.mem_range.mp hi)]
    · simp [List.filterMap_cons]

namespace Station

variable {α : Type} [TokenArithmetic α] {s : Station α} {k : Nat} {now : Instant}
  {handle : StopHandle}

omit [TokenArithmetic α] in
theorem panic?_map {σ τ : Type} (f : σ → τ) (t : Task σ) : (t.map f).fate?.join = t.panic? := by
  cases t <;> rfl

omit [TokenArithmetic α] in
theorem panics_crew (s : Station α) (k : Nat) (r : Controller α) (now : Instant)
    (handle : StopHandle) :
    (s.crew k r now handle).panics (Member.all r.relist.workers.length) = r.panics := by
  have hworkers : ((List.range r.relist.workers.length).map Member.worker).filterMap
      (fun m => ((s.crew k r now handle).fate? m).join) =
        r.relist.workers.filterMap Task.panic? := by
    rw [List.filterMap_map, ← filterMap_range_getElem? r.relist.workers]
    refine List.filterMap_congr fun i _ => ?_
    show ((r.relist.workers.map (Task.map Worker.parked))[i]?.bind Task.fate?).join = _
    rw [List.getElem?_map]
    cases r.relist.workers[i]? with
    | none => rfl
    | some t => exact panic?_map _ t
  have hdiscovery : ((s.crew k r now handle).fate? .discovery).join = r.discovery.panic? :=
    panic?_map _ _
  have hflush : ((s.crew k r now handle).fate? .flush).join = r.flush.panic? := by
    show r.flush.fate?.join = _
    cases r.flush <;> rfl
  rw [Crew.panics, Member.all, List.filterMap_cons, hdiscovery, List.filterMap_cons, hflush,
    hworkers, Controller.panics]
  cases r.discovery.panic? <;> cases r.flush.panic? <;> rfl

omit [TokenArithmetic α] in
theorem panics_stop (r : Controller α) : r.stop.1.panics = r.panics := by
  have hworkers : (r.relist.workers.map Task.stop).filterMap Task.panic? =
      r.relist.workers.filterMap Task.panic? := by
    rw [List.filterMap_map]
    exact List.filterMap_congr fun t _ => t.panic?_stop
  show r.discovery.stop.panic?.toList ++ r.flush.stop.panic?.toList ++ _ = _
  rw [Task.panic?_stop, Task.panic?_stop]
  exact congrArg _ hworkers

omit [TokenArithmetic α] in
theorem fate?_stop (s : Station α) (k : Nat) (r : Controller α) (now : Instant)
    (handle : StopHandle) {m : Member} (hm : m ∈ Member.all r.relist.workers.length) :
    ((s.crew k r.stop.1 now handle).fate? m).isSome = true := by
  have hover {σ τ : Type} (f : σ → τ) (t : Task σ) : (t.stop.map f).fate?.isSome = true := by
    cases t <;> rfl
  cases m with
  | discovery => exact hover _ _
  | flush =>
    show r.flush.stop.fate?.isSome = true
    cases r.flush <;> rfl
  | worker i =>
    have hi : i < r.relist.workers.length := by simpa [Member.all] using hm
    show (((r.relist.workers.map Task.stop).map (Task.map Worker.parked))[i]?.bind
      Task.fate?).isSome = true
    rw [List.getElem?_map, List.getElem?_map, List.getElem?_eq_getElem hi]
    exact hover _ _

/-- The tasks are called off, and all of them are to be joined. -/
theorem calledOff_leads (s : Station α) (k : Nat) (r : Controller α) (now : Instant) :
    (s.crew k r now .held).Leads []
      (s.crew k r now (.joining (Member.all r.relist.workers.length) 0)) := by
  have hstep := Crew.Leads.step (s.crew k r now .held) .stop
  have hsize : (s.crew k r now .held).relisting.workers.length = r.relist.workers.length :=
    List.length_map _
  rw [Crew.step, Crew.stop] at hstep
  dsimp only [crew] at hstep hsize
  rw [hsize] at hstep
  exact hstep

/-- When all tasks are over, they are joined, and the handle returns what came of it. -/
theorem joined_leads (s : Station α) (k : Nat) (r : Controller α) (now : Instant) :
    (s.crew k r.stop.1 now (.joining (Member.all r.relist.workers.length) 0)).Leads
      ((r.panics.map fun cause => .logged (Controller.panicEvent cause)) ++
        [.logged .runtimeStopped])
      (s.crew k r.stop.1 now (.returned r.stop.2.1)) := by
  set n := r.relist.workers.length
  have hjoins := Crew.leads_joins (Member.all n)
    (c := s.crew k r.stop.1 now (.joining (Member.all n) 0)) rfl
    fun m hm => fate?_stop s k r now _ hm
  have hpanics := panics_crew s k r.stop.1 now (.joining (Member.all n) 0)
  have hsize : r.stop.1.relist.workers.length = n := List.length_map _
  rw [hsize, panics_stop] at hpanics
  rw [hpanics] at hjoins
  have houtcome : Crew.verdict (0 + r.panics.length) = r.stop.2.1 := by
    rw [Nat.zero_add, Crew.verdict, Controller.stop]
    cases r.panics <;> rfl
  rw [← houtcome]
  exact hjoins.trans (.step (s.crew k r.stop.1 now (.joining [] (0 + r.panics.length))) .finish)

omit [TokenArithmetic α] in
/-- Whoever still ran tells that it exits, and then the panics are told of. -/
theorem told_stop (r : Controller α) :
    r.stop.2.2 = (if r.discovery.isRunning then [.logged .discoveryExiting] else []) ++
      ((if r.flush.isRunning then [.logged .flushExiting] else []) ++
        ((r.panics.map fun cause => .logged (Controller.panicEvent cause)) ++
          [.logged .runtimeStopped])) := by
  rw [Controller.stop]
  cases r.discovery.isRunning <;> cases r.flush.isRunning <;>
    simp [List.map_map, Function.comp_def]

/-- To stop a controller of a station is to call the tasks off, which heed the call and are
joined. -/
theorem stop_leads {o : ControllerOptions} {r : Controller α} {ms : Nat}
    (hget : s.controllers[k]? = some r) (hkept : (s.crew k r (Clock.instantOf ms) .held).Kept k o) :
    let now := Clock.instantOf ms
    (s.crew k r now .held).Leads (s.stop ms k).2.2
      ((s.stop ms k).1.crew k (r.shutDown now).1 now (.returned (s.stop ms k).2.1)) := by
  intro now
  have hbegin := begin_leads s k r now .held
  rw [Station.stop, hget]
  show (s.crew k r now .held).Leads (r.begin now).stop.2.2 _
  have hdiscovery_ne := r.begin_discovery_ne now
  have hflush_ne := r.begin_flush_ne now
  set b := r.begin now
  set waiting := Member.all b.relist.workers.length
  set s₁ : Station α := { s with layer := s.layer.cancel k }
  have hcalledOff := hbegin.after (calledOff_leads s k b now)
  have hdiscovery := discovery_heeds_leads hdiscovery_ne (hcalledOff.kept hkept)
  have hflush := flush_heeds_leads s₁ k { b with discovery := b.discovery.stop } now hflush_ne
    waiting 0
  have hworkers := workers_heed_leads s₁ k
    { b with discovery := b.discovery.stop, flush := b.flush.stop } now waiting 0
  have hjoined := joined_leads s₁ k b now
  rw [told_stop]
  exact hcalledOff.after (hdiscovery.trans (hflush.trans (hworkers.after hjoined)))

end Station

end ClusterAgent
