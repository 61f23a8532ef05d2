/-
Each controller of a station is a crew, whatever is done with the station.

Controllers are started and stopped, tokens are taken and the time passes, in any order.
What is done for one controller leaves the others where they are, and so each of them is
where some run of its own crew leads: what is known of all runs of a crew is known of it.

* `Station.Carries` — from one state of a station to another, a controller is carried on;
* `Station.settle_carries`, `Station.advance_carries` — everything that is due carries each
  of them on;
* `Station.start_leads` — a controller that was started is a crew that began;
* `Station.Course.controllers_crewed` — so each controller is where its crew is.
-/
import ClusterAgent.Proofs.Controller.Stopping

namespace ClusterAgent

/-! ### All controllers in turn -/

namespace Station

variable {α : Type} [TokenArithmetic α] {s : Station α} {k : Nat} {now : Instant}

/-- What a station came to meanwhile, and told, is for one of its controllers a run of its crew. -/
def Carries (k : Nat) (now : Instant) (s : Station α) (told : List Notice) (later : Instant)
    (t : Station α) : Prop :=
  ∀ (o : ControllerOptions) (handle : StopHandle) (r : Controller α),
    s.controllers[k]? = some r → r.Tidy → (s.crew k r now handle).Kept k o →
    ∃ r' own, t.controllers[k]? = some r' ∧ r'.Tidy ∧
      (s.crew k r now handle).Leads own (t.crew k r' later handle) ∧ own.Sublist told

namespace Carries

variable {later last : Instant} {t u : Station α} {told more : List Notice}

theorem refl (k : Nat) (now : Instant) (s : Station α) : Carries k now s [] now s :=
  fun _ _ r hget htidy _ => ⟨r, [], hget, htidy, .refl _, .slnil⟩

theorem trans (hst : Carries k now s told later t) (htu : Carries k later t more last u) :
    Carries k now s (told ++ more) last u := by
  intro o handle r hget htidy hkept
  obtain ⟨r₁, own, hget₁, htidy₁, hfirst, hsub⟩ := hst o handle r hget htidy hkept
  obtain ⟨r₂, own', hget₂, htidy₂, hrest, hsub'⟩ :=
    htu o handle r₁ hget₁ htidy₁ (hfirst.kept hkept)
  exact ⟨r₂, own ++ own', hget₂, htidy₂, hfirst.trans hrest, hsub.append hsub'⟩

/-- More may be told on behalf of others. -/
theorem mono (h : Carries k now s told later t) (hsub : told.Sublist more) :
    Carries k now s more later t := by
  intro o handle r hget htidy hkept
  obtain ⟨r', own, hget', htidy', hlead, hown⟩ := h o handle r hget htidy hkept
  exact ⟨r', own, hget', htidy', hlead, hown.trans hsub⟩

/-- What leaves the requests of a controller alone is done elsewhere. -/
theorem elsewhere (hcontroller : t.controllers[k]? = s.controllers[k]?)
    (htraces : t.layer.traces k = s.layer.traces k) : Carries k now s [] now t := by
  intro o handle r hget htidy _
  refine ⟨r, [], hcontroller.trans hget, htidy, ?_, .slnil⟩
  exact Crew.leads_elsewhere t.layer t.catalog htraces

/-- The time passes for a crew while a station waits. -/
theorem wait (k : Nat) (s : Station α) (h : now ≤ later) : Carries k now s [] later s := by
  obtain ⟨d, rfl⟩ := Nat.exists_eq_add_of_le h
  intro o handle r hget htidy _
  exact ⟨r, [], hget, htidy, .step (s.crew k r now handle) (.wait d), .slnil⟩

end Carries

/-- What a station does for one controller is done for it, and leaves the others alone. -/
theorem work_carries (answer : String → Fetched) (now : Instant) (i k : Nat) (h : s.layer.Open) :
    Carries k now s (work answer now i s).2 now (work answer now i s).1 := by
  rcases eq_or_ne k i with rfl | hne
  · intro o handle r hget htidy hkept
    obtain ⟨r', hget', htidy', hwork⟩ := work_leads answer h hget htidy hkept
    exact ⟨r', _, hget', htidy', hwork, .refl _⟩
  · have hleaves := work_leaves answer now i h
    exact (Carries.elsewhere (hleaves.controllers k hne) (hleaves.traces k hne)).mono
      (List.nil_sublist _)

/-- What a station does for some of its controllers, one after the other. -/
def works (answer : String → Fetched) (now : Instant) (ks : List Nat) (s : Station α)
    (told : List Notice) : Station α × List Notice :=
  ks.foldl (fun (s, ns) k =>
    let (s, more) := work answer now k s
    (s, ns ++ more)) (s, told)

/-- The requests of those whose turn did not come are left alone. -/
theorem works_leaves (answer : String → Fetched) (now : Instant) (ks : List Nat)
    (told : List Notice) (h : s.layer.Open) :
    let done := (works answer now ks s told).1
    done.layer.Open ∧ done.controllers.length = s.controllers.length ∧
      ∀ i ∉ ks, done.layer.traces i = s.layer.traces i := by
  induction ks generalizing s told with
  | nil => exact ⟨h, rfl, fun _ _ => rfl⟩
  | cons k ks ih =>
    have hfirst := work_leaves answer now k h
    obtain ⟨hopen, hlength, htraces⟩ := ih (told ++ (work answer now k s).2) hfirst.opened
    refine ⟨hopen, hlength.trans hfirst.length, fun i hi => ?_⟩
    obtain ⟨hne, hrest⟩ := List.ne_and_not_mem_of_not_mem_cons hi
    exact (htraces i hrest).trans (hfirst.traces i hne)

theorem works_carries (answer : String → Fetched) (now : Instant) (ks : List Nat)
    (told : List Notice) (k : Nat) (h : s.layer.Open) :
    ∃ more, (works answer now ks s told).2 = told ++ more ∧
      Carries k now s more now (works answer now ks s told).1 := by
  -- What was told before stays in front, and `more` is what these tell.
  induction ks generalizing s told with
  | nil => exact ⟨[], (List.append_nil told).symm, .refl k now s⟩
  | cons i ks ih =>
    obtain ⟨more, htold, hrest⟩ :=
      ih (told ++ (work answer now i s).2) (work_leaves answer now i h).opened
    refine ⟨(work answer now i s).2 ++ more, ?_, (work_carries answer now i k h).trans hrest⟩
    rw [← List.append_assoc]
    exact htold

/-- Nothing waits for a service, and nothing is left of requests of controllers to come. -/
structure Orderly (s : Station α) : Prop where
  opened : s.layer.Open
  fresh : ∀ k, s.controllers.length ≤ k → s.layer.traces k = .nothing

theorem wake_nothing {l : RequestLayer α} (h : l.traces k = .nothing) (ms : Nat) :
    (l.wake ms).traces k = .nothing := by
  rcases l.wake_cases (k := k) ms (by rw [h]; exact Nat.zero_le _) with hsame | ⟨hwaits, -⟩
  · exact hsame.trans h
  · exact absurd (by rw [h]; rfl) hwaits

theorem settle_orderly (h : s.Orderly) (answer : String → Fetched) (ms : Nat) :
    (s.settle answer ms).1.Orderly ∧
      (s.settle answer ms).1.controllers.length = s.controllers.length := by
  have hready : ∀ i, (s.layer.wake ms).readiness i = .ready := h.opened.ready
  have hopen := RequestLayer.Open.dispatch hready (Clock.instantOf ms)
  set layer := ((s.layer.wake ms).dispatch (Clock.instantOf ms)).1
  obtain ⟨hopen', hlength, htraces⟩ := works_leaves (s := { s with layer }) answer
    (Clock.instantOf ms) (List.range s.controllers.length)
    (noticesOf ((s.layer.wake ms).dispatch (Clock.instantOf ms)).2) hopen
  refine ⟨⟨hopen', fun k hk => ?_⟩, hlength⟩
  -- It is not the turn of anyone that is still to come.
  have hk' : s.controllers.length ≤ k := hlength ▸ hk
  have hdispatched : layer.traces k = .nothing := by
    rw [RequestLayer.traces_dispatch_of_ready hready, wake_nothing (h.fresh k hk') ms]
    rfl
  exact (htraces k (by simpa using hk')).trans hdispatched

/-- Everything that is due at a millisecond is a run of each crew. -/
theorem settle_carries (h : s.Orderly) (answer : String → Fetched) (ms k : Nat) :
    Carries k (Clock.instantOf ms) s (s.settle answer ms).2 (Clock.instantOf ms)
      (s.settle answer ms).1 := by
  set now := Clock.instantOf ms
  have hready : ∀ i, (s.layer.wake ms).readiness i = .ready := h.opened.ready
  set dispatched := (s.layer.wake ms).dispatch now
  have hhandedOver : Carries k now s [] now { s with layer := dispatched.1 } := by
    intro o handle r hget htidy hkept
    have hwake : (s.crew k r now handle).Leads []
        ((s.crew k r now handle).withLayer (s.layer.wake ms)) :=
      Crew.leads_wake hkept.sound rfl
    have hdispatch := Crew.leads_dispatch (hwake.kept hkept).sound hready now
    exact ⟨r, [], hget, htidy, hwake.after hdispatch, .slnil⟩
  obtain ⟨more, htold, hworks⟩ := works_carries answer now (List.range s.controllers.length)
    (noticesOf dispatched.2) k (s := { s with layer := dispatched.1 })
    (RequestLayer.Open.dispatch hready now)
  have htold' : (s.settle answer ms).2 = noticesOf dispatched.2 ++ more := htold
  rw [htold']
  exact (hhandedOver.trans hworks).mono (List.sublist_append_right _ _)

theorem advance_carries (h : s.Orderly) (answer : String → Fetched) {ms target : Nat}
    (hle : ms ≤ target) (k : Nat) :
    (s.advance answer ms target).1.Orderly ∧
      (s.advance answer ms target).1.controllers.length = s.controllers.length ∧
      Carries k (Clock.instantOf ms) s (s.advance answer ms target).2 (Clock.instantOf target)
        (s.advance answer ms target).1 := by
  refine Clock.pass_induct (motive := fun ms (s : Station α) (result : Station α × List Notice) =>
    s.Orderly → result.1.Orderly ∧ result.1.controllers.length = s.controllers.length ∧
      Carries k (Clock.instantOf ms) s result.2 (Clock.instantOf target) result.1) ?_ ?_ hle s h
  · intro s h
    exact ⟨h, rfl, .refl k _ s⟩
  · intro now ms s rest hlt _ _ ih h
    obtain ⟨horderly, hlength⟩ := settle_orderly h answer ms
    obtain ⟨horderly', hlength', hrest⟩ := ih horderly
    have hwait : Carries k (Clock.instantOf now) s [] (Clock.instantOf ms) s :=
      .wait k s (Nat.mul_le_mul_right nanosPerMilli hlt.le)
    have hsettled := hwait.trans (settle_carries h answer ms k)
    exact ⟨horderly', hlength'.trans hlength, hsettled.trans hrest⟩

/-! ### Controllers begin and end -/

omit [TokenArithmetic α] in
theorem start_tidy (limits : RateLimit → Limits α) (o : ControllerOptions) :
    (Controller.start limits o).1.Tidy := by
  intro seen hseen
  have hseen : Task.running seen ∈ List.replicate o.workers (Task.running 0) := hseen
  cases List.eq_of_mem_replicate hseen
  exact ⟨le_rfl, rfl⟩

/-- The tasks that were spawned begin, and find what the others have done by then. -/
theorem start_leads (limits : RateLimit → Limits α) (client : RateLimit) (o : ControllerOptions)
    (now : Instant) (h : s.layer.traces k = .nothing) :
    (Crew.start k limits client o now).1.Leads []
      (s.crew k ((Controller.start limits o).1.begin now) now .held) := by
  set r := (Controller.start limits o).1
  have helsewhere := Crew.leads_elsewhere (s := (Crew.start k limits client o now).1)
    s.layer s.catalog h
  have hspawned : r.relisting = Relisting.start o := by
    show (⟨_, _, (List.replicate o.workers (Task.running 0)).map (Task.map Worker.parked)⟩ :
      Relisting) = _
    rw [List.map_replicate]
    rfl
  have hcrew : s.crew k r now .held =
      ⟨now, r.refreshing k s.layer s.catalog, Relisting.start o, .held⟩ := by
    rw [crew, hspawned]
  refine helsewhere.after ?_
  have hbegin := begin_leads s k r now .held
  rw [hcrew] at hbegin
  exact hbegin

omit [TokenArithmetic α] in
/-- A controller that is over stays as it is. -/
theorem shutDown_of_over {r : Controller α} (hdiscovery : r.discovery.isRunning = false)
    (hflush : r.flush.isRunning = false) (hworkers : ∀ t ∈ r.relist.workers, t.isRunning = false)
    (now : Instant) : (r.shutDown now).1 = r := by
  have hbegin : r.begin now = r := by
    obtain ⟨discovery, correlator, flush, relist⟩ := r
    cases discovery with
    | running state => cases hdiscovery
    | ended | panicked =>
      cases flush with
      | running state => cases hflush
      | ended | panicked => rfl
  have hover {σ : Type} {t : Task σ} (h : t.isRunning = false) : t.stop = t := by
    cases t with
    | running state => cases h
    | ended => rfl
    | panicked cause => rfl
  have hsame : r.relist.workers.map Task.stop = r.relist.workers :=
    (List.map_congr_left fun t ht => hover (hworkers t ht)).trans (List.map_id _)
  rw [Controller.shutDown, hbegin]
  show { r with
    discovery := r.discovery.stop
    flush := r.flush.stop
    relist := { r.relist with workers := r.relist.workers.map Task.stop } } = r
  rw [hover hdiscovery, hover hflush, hsame]

omit [TokenArithmetic α] in
theorem Orderly.stop (h : s.Orderly) (ms k : Nat) : (s.stop ms k).1.Orderly := by
  unfold Station.stop
  split
  · refine ⟨⟨h.opened.ready, ?_⟩, fun i hi => ?_⟩
    · show s.layer.queued.filter _ = []
      rw [h.opened.queued]
      rfl
    · rcases eq_or_ne i k with rfl | hne
      · exact s.layer.traces_cancel i
      · refine (s.layer.traces_cancel_of_ne hne).trans (h.fresh i ?_)
        rw [← List.length_set]
        exact hi
  · exact h

omit [TokenArithmetic α] in
theorem length_stop (s : Station α) (ms k : Nat) :
    (s.stop ms k).1.controllers.length = s.controllers.length := by
  unfold Station.stop
  split
  · exact List.length_set
  · rfl

omit [TokenArithmetic α] in
theorem stop_tidy (r : Controller α) : r.stop.1.Tidy := by
  intro seen hseen
  obtain ⟨t, -, ht⟩ := List.mem_map.mp hseen
  have hover := t.isRunning_stop
  rw [ht] at hover
  cases hover

/-- To stop a controller leaves the others alone. -/
theorem stop_carries {ms i : Nat} (hne : k ≠ i) :
    Carries k now s (s.stop ms i).2.2 now (s.stop ms i).1 := by
  refine Carries.mono (Carries.elsewhere ?_ ?_) (List.nil_sublist _)
  · unfold Station.stop
    split
    · exact List.getElem?_set_ne hne.symm
    · rfl
  · unfold Station.stop
    split
    · exact s.layer.traces_cancel_of_ne hne
    · rfl

/-- To stop a controller once more changes nothing. -/
theorem stop_again_leads {o : ControllerOptions} {r : Controller α}
    {outcome : Except StopFault Unit}
    (hkept : (s.crew k r now (.returned outcome)).Kept k o) :
    (r.shutDown now).1 = r ∧ (s.crew k r now (.returned outcome)).Leads []
      ({ s with layer := s.layer.cancel k }.crew k r now (.returned outcome)) := by
  refine ⟨shutDown_of_over ?_ ?_ (fun t ht => ?_) now, Crew.leads_layer _ ?_⟩
  · rw [← Task.isRunning_map Refresher.errand]
    exact hkept.discovery_over rfl
  · exact hkept.flush_over rfl
  · obtain ⟨i, hi⟩ := List.mem_iff_getElem?.mp ht
    rw [← Task.isRunning_map Worker.parked]
    refine hkept.worker_over rfl i _ ?_
    show (r.relist.workers.map _)[i]? = _
    rw [List.getElem?_map, hi]
    rfl
  · exact (s.layer.traces_cancel k).trans (hkept.nothing_left rfl).symm

/-! ### Whatever is done with a station -/

/-- One thing that is done with a station; the control plane may answer otherwise each time. -/
inductive Act where
  | start (answer : String → Fetched) (o : ControllerOptions)
  | stop (k : Nat)
  | tryAcquire
  | advance (answer : String → Fetched) (millis : Nat)

/-- A station, the time, and what was told so far. -/
structure Course (α : Type) where
  station : Station α
  ms : Nat
  told : List Notice

namespace Course

variable (limits : RateLimit → Limits α) (client : RateLimit)

/-- A station for a client, at some time. -/
def begin (ms : Nat) : Course α :=
  ⟨Station.new (Limiter.new (limits client) (Clock.instantOf ms)), ms, []⟩

/-- One thing is done. -/
def act (c : Course α) : Act → Course α
  | .start answer o =>
    let (station, ns) := c.station.start answer limits o c.ms
    { c with station, told := c.told ++ ns }
  | .stop k =>
    let (station, _, ns) := c.station.stop c.ms k
    { c with station, told := c.told ++ ns }
  | .tryAcquire => { c with station := (c.station.tryAcquire c.ms).2 }
  | .advance answer millis =>
    let (station, ns) := c.station.advance answer c.ms (c.ms + millis)
    ⟨station, c.ms + millis, c.told ++ ns⟩

/-- Things are done one after the other. -/
def run (c : Course α) (acts : List Act) : Course α := acts.foldl (act limits) c

/-- Nobody has asked for the controller to stop, or it did. -/
def settled : StopHandle → Bool
  | .joining .. => false
  | _ => true

/-- A run of a crew leads to where the station is with a controller, and tells nothing else. -/
def Crewed (c : Course α) (k : Nat) (r : Controller α) : Prop :=
  ∃ (o : ControllerOptions) (began : Instant) (actions : List (Crew.Action α))
    (handle : StopHandle),
    let spawned := Crew.start k limits client o began
    let reached := spawned.1.run actions
    reached.1 = c.station.crew k r (Clock.instantOf c.ms) handle ∧ settled handle = true ∧
      (CrewEvent.notices (spawned.2 ++ reached.2)).Sublist c.told

/-- What is kept by everything that is done with a station. -/
structure Kept (c : Course α) : Prop where
  orderly : c.station.Orderly
  crewed : ∀ k r, c.station.controllers[k]? = some r → r.Tidy ∧ c.Crewed limits client k r

variable {limits client} {c d : Course α} {r r' : Controller α} {ns : List Notice}

/-- A crew goes on from where it is. -/
theorem Crewed.leads (h : c.Crewed limits client k r) (htold : d.told = c.told ++ ns)
    (hlead : ∀ (o : ControllerOptions) (handle : StopHandle), settled handle = true →
      (c.station.crew k r (Clock.instantOf c.ms) handle).Kept k o →
      ∃ handle' own, settled handle' = true ∧ own.Sublist ns ∧
        (c.station.crew k r (Clock.instantOf c.ms) handle).Leads own
          (d.station.crew k r' (Clock.instantOf d.ms) handle')) :
    d.Crewed limits client k r' := by
  obtain ⟨o, began, actions, handle, hrun, hsettled, hsofar⟩ := h
  have hkept := Crew.kept_of_run (Crew.kept_start k limits client o began) actions
  rw [hrun] at hkept
  obtain ⟨handle', own, hsettled', hsub, more, hmore, hown⟩ := hlead o handle hsettled hkept
  refine ⟨o, began, actions ++ more, handle', ?_, hsettled', ?_⟩
  · rw [Crew.run_append]
    dsimp only
    rw [hrun]
    exact hmore
  · rw [Crew.run_append]
    dsimp only
    rw [hrun, ← List.append_assoc, CrewEvent.notices_append, hown, htold]
    exact hsofar.append hsub

/-- Whatever carries a crew on keeps it where the station is. -/
theorem Kept.carries (h : c.Kept limits client) (hk : k < c.station.controllers.length)
    (htold : d.told = c.told ++ ns)
    (hcarries : Carries k (Clock.instantOf c.ms) c.station ns (Clock.instantOf d.ms) d.station)
    (hget' : d.station.controllers[k]? = some r') : r'.Tidy ∧ d.Crewed limits client k r' := by
  have hget := List.getElem?_eq_getElem hk
  generalize c.station.controllers[k] = r at hget
  obtain ⟨htidy, hcrewed⟩ := h.crewed k r hget
  have hsame (o : ControllerOptions) (handle : StopHandle)
      (hkept : (c.station.crew k r (Clock.instantOf c.ms) handle).Kept k o) :
      r'.Tidy ∧ ∃ own, own.Sublist ns ∧ (c.station.crew k r (Clock.instantOf c.ms) handle).Leads own
        (d.station.crew k r' (Clock.instantOf d.ms) handle) := by
    obtain ⟨r₁, own, hget₁, htidy₁, hlead, hsub⟩ := hcarries o handle r hget htidy hkept
    cases hget₁.symm.trans hget'
    exact ⟨htidy₁, own, hsub, hlead⟩
  refine ⟨?_, hcrewed.leads htold fun o handle hsettled hkept => ?_⟩
  · obtain ⟨o, began, actions, handle, hrun, -, -⟩ := hcrewed
    have hkept := Crew.kept_of_run (Crew.kept_start k limits client o began) actions
    rw [hrun] at hkept
    exact (hsame o handle hkept).1
  · obtain ⟨-, own, hsub, hlead⟩ := hsame o handle hkept
    exact ⟨handle, own, hsettled, hsub, hlead⟩

theorem Kept.start (h : c.Kept limits client) (answer : String → Fetched) (o : ControllerOptions) :
    (c.act limits (.start answer o)).Kept limits client := by
  set s := c.station
  set r := (Controller.start limits o).1.begin (Clock.instantOf c.ms)
  set joined : Station α := { s with controllers := s.controllers ++ [r] } with hjoined
  have horderly : joined.Orderly := ⟨h.orderly.opened, fun k hk => h.orderly.fresh k (by
    rw [hjoined, List.length_append] at hk
    exact Nat.le_of_succ_le hk)⟩
  obtain ⟨horderly', hlength⟩ := settle_orderly horderly answer c.ms
  refine ⟨horderly', fun k r' hget' => ?_⟩
  -- Those that were there are carried on, and the new one is where it began.
  rcases Nat.lt_or_ge k s.controllers.length with hk | hk
  · have hcontroller : joined.controllers[k]? = s.controllers[k]? := List.getElem?_append_left hk
    have hjoined : Carries k (Clock.instantOf c.ms) s [] (Clock.instantOf c.ms) joined :=
      .elsewhere hcontroller rfl
    have hcarries := hjoined.trans (settle_carries horderly answer c.ms k)
    exact h.carries hk rfl (hcarries.mono (List.sublist_append_right _ _)) hget'
  · have hlt := (List.getElem?_eq_some_iff.mp hget').1
    have hlength' : (joined.settle answer c.ms).1.controllers.length =
        s.controllers.length + 1 := by
      rw [hlength, hjoined, List.length_append]
      rfl
    obtain rfl : k = s.controllers.length := by
      have hlt' : k < s.controllers.length + 1 := hlength' ▸ hlt
      omega
    have hget : joined.controllers[s.controllers.length]? = some r := List.getElem?_concat_length
    have hspawned := start_leads (s := joined) limits client o (Clock.instantOf c.ms)
      (h.orderly.fresh _ le_rfl)
    have hkept := hspawned.kept (Crew.kept_start s.controllers.length limits client o _)
    obtain ⟨r₁, own, hget₁, htidy₁, hlead, hsub⟩ :=
      settle_carries horderly answer c.ms _ o .held r hget
        ((start_tidy limits o).begin _) hkept
    cases hget₁.symm.trans hget'
    obtain ⟨actions, hrun, hown⟩ := hspawned.after hlead
    refine ⟨htidy₁, o, Clock.instantOf c.ms, actions, .held, hrun, rfl, ?_⟩
    rw [CrewEvent.notices_append, hown]
    exact (hsub.append_left _).trans (List.sublist_append_right _ _)

theorem Kept.stop (h : c.Kept limits client) (i : Nat) :
    (c.act limits (.stop i)).Kept limits client := by
  refine ⟨h.orderly.stop c.ms i, fun k r' hget' => ?_⟩
  have hk : k < c.station.controllers.length := by
    rw [← length_stop c.station c.ms]
    exact (List.getElem?_eq_some_iff.mp hget').1
  rcases eq_or_ne k i with rfl | hne
  · have hget := List.getElem?_eq_getElem hk
    generalize c.station.controllers[k] = r at hget
    set stopped := r.shutDown (Clock.instantOf c.ms)
    have hstop : c.station.stop c.ms k = ({ c.station with
        layer := c.station.layer.cancel k }.put k stopped.1, stopped.2.1, stopped.2.2) := by
      rw [Station.stop, hget]
    have hstation : (c.act limits (.stop k)).station = (c.station.stop c.ms k).1 := rfl
    obtain rfl : r' = stopped.1 := by
      rw [hstation, hstop] at hget'
      exact Option.some.inj (hget'.symm.trans (List.getElem?_set_self hk))
    refine ⟨stop_tidy _, (h.crewed k r hget).2.leads rfl fun o handle hsettled hkept => ?_⟩
    cases handle with
    | held => exact ⟨_, _, rfl, .refl _, stop_leads hget hkept⟩
    -- Nobody sees a station in the middle of a stop.
    | joining waiting panicked => cases hsettled
    | returned outcome =>
      obtain ⟨hsame, hlead⟩ := stop_again_leads hkept
      refine ⟨.returned outcome, [], rfl, List.nil_sublist _, ?_⟩
      rw [hstation, hstop, hsame]
      exact hlead
  · exact h.carries hk rfl (stop_carries hne) hget'

theorem Kept.tryAcquire (h : c.Kept limits client) :
    (c.act limits .tryAcquire).Kept limits client := by
  have htraces (k : Nat) : (c.station.tryAcquire c.ms).2.layer.traces k =
      c.station.layer.traces k := rfl
  have hopen : (c.station.tryAcquire c.ms).2.layer.Open :=
    ⟨h.orderly.opened.ready, h.orderly.opened.queued⟩
  refine ⟨⟨hopen, h.orderly.fresh⟩, fun k r' hget' => ?_⟩
  exact h.carries (List.getElem?_eq_some_iff.mp hget').1 (List.append_nil _).symm
    (Carries.elsewhere rfl (htraces k)) hget'

theorem Kept.advance (h : c.Kept limits client) (answer : String → Fetched) (millis : Nat) :
    (c.act limits (.advance answer millis)).Kept limits client := by
  have hadvance := advance_carries h.orderly answer (Nat.le_add_right c.ms millis)
  refine ⟨(hadvance 0).1, fun k r' hget' => ?_⟩
  obtain ⟨-, hlength, hcarries⟩ := hadvance k
  exact h.carries (hlength ▸ (List.getElem?_eq_some_iff.mp hget').1) rfl hcarries hget'

theorem kept_begin (limits : RateLimit → Limits α) (client : RateLimit) (ms : Nat) :
    (begin limits client ms).Kept limits client :=
  ⟨⟨⟨fun _ => rfl, rfl⟩, fun _ _ => rfl⟩, nofun⟩

theorem Kept.act (h : c.Kept limits client) (a : Act) : (c.act limits a).Kept limits client := by
  cases a with
  | start answer o => exact h.start answer o
  | stop k => exact h.stop k
  | tryAcquire => exact h.tryAcquire
  | advance answer millis => exact h.advance answer millis

theorem kept_run (limits : RateLimit → Limits α) (client : RateLimit) (ms : Nat) (acts : List Act) :
    ((begin limits client ms).run limits acts).Kept limits client := by
  induction acts using List.reverseRecOn with
  | nil => exact kept_begin limits client ms
  | append_singleton acts a ih =>
    rw [run, List.foldl_concat]
    exact ih.act a

/-- **Controllers of stations.** Whatever is done with a station, each of its controllers is where
some run of its tasks leads, one wait at a time.  So its generations are counted and paced, and its
workers pick up the newest ones. -/
theorem controllers_crewed (limits : RateLimit → Limits α) (client : RateLimit) (ms : Nat)
    (acts : List Act) :
    let c := (begin limits client ms).run limits acts
    ∀ k r, c.station.controllers[k]? = some r → c.Crewed limits client k r ∧
      ∃ (o : ControllerOptions) (began : Instant) (own : List Notice), own.Sublist c.told ∧
        Relisting.Kept o began (Clock.instantOf c.ms) r.relisting own := by
  intro c k r hget
  obtain ⟨-, hcrewed⟩ := (kept_run limits client ms acts).crewed k r hget
  refine ⟨hcrewed, ?_⟩
  obtain ⟨o, began, actions, handle, hrun, -, hsub⟩ := hcrewed
  have hkept := Crew.kept_run k limits client o began actions
  dsimp only at hkept
  rw [hrun] at hkept
  exact ⟨o, began, _, hsub, hkept⟩

end Course

end Station

end ClusterAgent
