/-
What is known of refreshes agrees.

The catalog, the gauge, two counters, the log and the limit for warnings are all changed
when a refresh ends, and by nothing else.  So they agree with each other after any refreshes
that ended in any way, and a refresh that was cut off is known to none of them.

* `Finish.Told` — the three things that can be told of a refresh;
* `Followed.step_cases` — a refresh ends, or nothing of this changes;
* `Followed.Kept` — what is kept, `Followed.kept_follow` — by whatever happens;
* `Followed.Accounted` — what it comes to in the catalog, the metrics and the log,
  `Followed.Enveloped` — and in any window of time;
* `Followed.refreshes_accounted` — both, for every controller that is followed.

Design notes: all but the bound on warnings holds in doubles as it does in exact fractions.
-/
import ClusterAgent.Controller.Refreshes
import ClusterAgent.Proofs.Rate.Objects
import ClusterAgent.Proofs.Rate.Window
import ClusterAgent.Proofs.Telemetry.Counting

namespace ClusterAgent

/-- The number of resources that a log entry tells of. -/
def LogEvent.refreshed? : LogEvent → Option Nat
  | .discoveryRefreshed resources => some resources
  | _ => none

/-- Whether a notice tells of a refresh, or of a warning that was held back. -/
def Notice.ofRefresh : Notice → Bool
  | .measured (.discovery ..) | .measured .eventSuppressed | .logged (.discoveryRefreshed _)
  | .logged (.discoveryFailed _) | .logged (.eventSuppressed _) => true
  | _ => false

namespace Finish

/-- What a refresh found, if it did not fail. -/
def groups? (e : Finish) : Option (List ServedGroup) := e.refresh.toOption

def failed (e : Finish) : Bool := e.groups?.isNone

def warned (e : Finish) : Bool :=
  (logsOf e.told).any (·.message = "Failed to refresh discovery cache")

def suppressed (e : Finish) : Bool := (measurementsOf e.told).contains .eventSuppressed

/-- What can be told of a refresh. -/
inductive Told : Finish → Prop
  | succeeded (now : Instant) (groups : List ServedGroup) :
      Told ⟨now, .ok groups,
        [.measured (.discovery true (some (Discovery.kinds groups).length)),
          .logged (.discoveryRefreshed (Discovery.kinds groups).length)]⟩
  | warned (now : Instant) (fault : ClientFault) :
      Told ⟨now, .error fault,
        [.measured (.discovery false none), .logged (.discoveryFailed fault.message)]⟩
  | suppressed (now : Instant) (fault : ClientFault) :
      Told ⟨now, .error fault,
        [.measured (.discovery false none), .measured .eventSuppressed,
          .logged (.eventSuppressed Controller.discoveryObject)]⟩

variable {e : Finish}

theorem Told.ofRefresh (h : e.Told) : e.told.filter Notice.ofRefresh = e.told := by
  cases h <;> rfl

/-- **Exactly one.** Of a failed refresh there is a warning, or one was held back. -/
theorem Told.one_of (h : e.Told) : (e.failed → e.warned = !e.suppressed) ∧
    (e.failed = false → e.warned = false ∧ e.suppressed = false) := by
  cases h <;> simp [failed, groups?, Except.toOption, Finish.warned, Finish.suppressed, logsOf,
    measurementsOf, Notice.log?, Notice.measurement?, LogEvent.message]

end Finish

namespace Followed

open Finish

/-! ### What refreshes come to -/

/-- What was found, by each refresh that did not fail. -/
def successes (es : List Finish) : List (List ServedGroup) := es.filterMap groups?

def failures (es : List Finish) : List Finish := es.filter (·.failed)

/-- The resource kinds that the last refresh found that did not fail. -/
def lastKinds (es : List Finish) : List ResourceKind :=
  ((successes es).getLast?.map Discovery.kinds).getD []

theorem lastKinds_concat (es : List Finish) (e : Finish) :
    lastKinds (es ++ [e]) = (e.groups?.map Discovery.kinds).getD (lastKinds es) := by
  rw [lastKinds, successes, List.filterMap_append, List.getLast?_append]
  cases h : e.groups? <;> simp [h, lastKinds, successes]

/-- The calls for warnings, one for each refresh that failed. -/
def calls (es : List Finish) : List (String × Instant) :=
  (failures es).map fun e => (Controller.discoveryObject, e.now)

/-! ### One step -/

section

variable {α : Type} [TokenArithmetic α] {f f' : Followed α}

/-- Nothing of refreshes changes. -/
structure Quiet (f f' : Followed α) : Prop where
  catalog : f'.run.catalog = f.run.catalog
  correlator : f'.run.controller.correlator = f.run.controller.correlator
  now : f.run.now ≤ f'.run.now
  finished : f'.finished = f.finished
  told : f'.told.filter Notice.ofRefresh = f.told.filter Notice.ofRefresh

/-- A refresh ends. -/
structure Ended (f : Followed α) (refresh : Refresh) (f' : Followed α) : Prop where
  catalog : f'.run.catalog = f.run.catalog.refreshed refresh
  correlator : f'.run.controller.correlator =
    (Controller.report f.run.controller.correlator f.run.now refresh).1
  now : f'.run.now = f.run.now
  finished : f'.finished = f.finished ++
    [⟨f.run.now, refresh, (Controller.report f.run.controller.correlator f.run.now refresh).2⟩]
  told : f'.told = f.told ++
    (Controller.report f.run.controller.correlator f.run.now refresh).2

theorem correlator_tickDiscovery {α : Type} (r : Controller α) (now : Instant) :
    (r.tickDiscovery now).correlator = r.correlator := by
  rw [Controller.tickDiscovery]
  split
  · split <;> rfl
  · rfl

theorem correlator_proceed {α : Type} (r : Controller α) (plan : Plan Refresh) :
    (r.proceed plan).correlator = r.correlator := by
  rw [Controller.proceed]
  split <;> rfl

theorem correlator_hear {α : Type} (r : Controller α) (fetched : Fetched) :
    (r.hear fetched).correlator = r.correlator := by
  rw [Controller.hear]
  split
  · exact correlator_proceed ..
  · rfl

theorem tickFlush_quiet {α : Type} (r : Controller α) (now : Instant) :
    (r.tickFlush now).1.correlator = r.correlator ∧
      (r.tickFlush now).2.filter Notice.ofRefresh = [] := by
  rw [Controller.tickFlush]
  split
  · split
    · split <;> exact ⟨rfl, rfl⟩
    · exact ⟨rfl, rfl⟩
  · exact ⟨rfl, rfl⟩

theorem correlator_beginDiscovery {α : Type} (r : Controller α) (now : Instant) :
    (r.beginDiscovery now).correlator = r.correlator := by
  rw [Controller.beginDiscovery_eq]

theorem correlator_beginFlush {α : Type} (r : Controller α) (now : Instant) :
    (r.beginFlush now).correlator = r.correlator := by
  rw [Controller.beginFlush_eq]

theorem wake_quiet (r : Relist) (resources worker : Nat) :
    (r.wake resources worker).2.filter Notice.ofRefresh = [] := by
  rw [Relist.wake]
  split
  · rw [Relist.look.eq_def]
    dsimp only
    split
    · split <;> rfl
    · rfl
  · rfl

theorem stop_quiet {α : Type} (r : Controller α) : r.stop.2.2.filter Notice.ofRefresh = [] := by
  rw [List.filter_eq_nil_iff]
  intro n hn
  obtain ⟨event, hevent, rfl⟩ := List.mem_map.mp hn
  simp only [List.mem_append, List.mem_map, List.mem_singleton] at hevent
  rcases hevent with ((hexit | hexit) | ⟨panic, -, rfl⟩) | rfl
  · split at hexit
    · obtain rfl := List.mem_singleton.mp hexit
      nofun
    · exact absurd hexit List.not_mem_nil
  · split at hexit
    · obtain rfl := List.mem_singleton.mp hexit
      nofun
    · exact absurd hexit List.not_mem_nil
  · nofun
  · nofun

/-- An action by which no refresh ends changes nothing of refreshes. -/
theorem act_quiet (s : ControllerRun α) {a : ControllerRun.Action} (h : ending? s a = none) :
    (s.step a).1.catalog = s.catalog ∧
      (s.step a).1.controller.correlator = s.controller.correlator ∧
        s.now ≤ (s.step a).1.now ∧ (s.step a).2.filter Notice.ofRefresh = [] := by
  cases a with
  | wait nanos => exact ⟨rfl, rfl, Nat.le_add_right .., rfl⟩
  | beginDiscovery => exact ⟨rfl, correlator_beginDiscovery .., Nat.le_refl _, rfl⟩
  | beginFlush => exact ⟨rfl, correlator_beginFlush .., Nat.le_refl _, rfl⟩
  | tickDiscovery => exact ⟨rfl, correlator_tickDiscovery .., Nat.le_refl _, rfl⟩
  | answer fetched => exact ⟨rfl, correlator_hear .., Nat.le_refl _, rfl⟩
  | conclude =>
    have hnone : s.controller.conclude s.catalog s.now = (s.controller, s.catalog, []) := by
      rw [Controller.conclude]
      rw [ending?] at h
      split
      · rename_i hdone
        rw [hdone] at h
        exact absurd h (by simp)
      · rfl
    simp [ControllerRun.step, hnone]
  | tickFlush =>
    obtain ⟨hsame, hquiet⟩ := tickFlush_quiet s.controller s.now
    exact ⟨rfl, hsame, Nat.le_refl _, hquiet⟩
  | pickUp worker => exact ⟨rfl, rfl, Nat.le_refl _, wake_quiet ..⟩
  | stop =>
    refine ⟨rfl, ?_, Nat.le_refl _, stop_quiet _⟩
    show ((s.controller.beginDiscovery s.now).beginFlush s.now).correlator = _
    rw [correlator_beginFlush, correlator_beginDiscovery]

theorem inquiry_of_ending {α : Type} {s : ControllerRun α} {a : ControllerRun.Action}
    {refresh : Refresh}
    (h : ending? s a = some refresh) :
    ∃ ticker, a = .conclude ∧ s.controller.inquiry? = some (ticker, .done refresh) := by
  cases a with
  | conclude =>
    rw [ending?] at h
    split at h
    · rename_i ticker refresh' hdone
      obtain rfl := Option.some.inj h
      exact ⟨ticker, rfl, hdone⟩
    · exact absurd h nofun
  | _ => exact absurd h nofun

/-- **A refresh ends, or nothing of refreshes changes.** -/
theorem step_cases (f : Followed α) (m : Move) :
    Quiet f (f.step m) ∨ ∃ refresh, Ended f refresh (f.step m) := by
  cases m with
  | act a =>
    rcases hending : ending? f.run a with _ | refresh
    · obtain ⟨hcatalog, hcorrelator, hnow, hquiet⟩ := act_quiet f.run hending
      refine .inl ⟨hcatalog, hcorrelator, hnow, ?_, ?_⟩
      · simp [step, hending]
      · simp [step, hquiet]
    · refine .inr ⟨refresh, ?_⟩
      -- Only a discovery that is done can end.
      obtain ⟨ticker, rfl, hdone⟩ := inquiry_of_ending hending
      constructor <;> simp [step, ControllerRun.step, Controller.conclude, hdone, hending]
  | proceed plan => exact .inl ⟨rfl, correlator_proceed .., Nat.le_refl _, rfl, rfl⟩
  | hold => exact .inl ⟨rfl, rfl, Nat.le_refl _, rfl, rfl⟩

theorem report_told (c : Correlator α) (now : Instant) (refresh : Refresh) :
    Told ⟨now, refresh, (Controller.report c now refresh).2⟩ := by
  cases refresh with
  | ok groups => exact .succeeded now groups
  | error fault =>
    rw [Controller.report, Correlator.allow]
    dsimp only
    cases ((c.bucketAt Controller.discoveryObject now).tryTake c.limits now).1
    · exact .suppressed now fault
    · exact .warned now fault

theorem report_warned (c : Correlator α) (now : Instant) (fault : ClientFault) :
    (⟨now, .error fault, (Controller.report c now (.error fault)).2⟩ : Finish).warned =
      (c.allow Controller.discoveryObject now).1 := by
  rw [Controller.report, Correlator.allow]
  dsimp only
  cases ((c.bucketAt Controller.discoveryObject now).tryTake c.limits now).1 <;>
    simp [Finish.warned, logsOf, Notice.log?, LogEvent.message, Correlator.refusal]

/-! ### Every step -/

/-- What is kept of the catalog, the notices, the limit for warnings and the lists taken. -/
structure Kept (l : Limits α) (f : Followed α) : Prop where
  catalog : f.run.catalog.kinds = lastKinds f.finished
  told : ∀ e ∈ f.finished, e.Told
  /-- All that is told of refreshes is told when they end. -/
  notices : f.told.filter Notice.ofRefresh = f.finished.flatMap (·.told)
  /-- The limit for warnings was asked at each failure, and by nothing else. -/
  correlator : ((Correlator.new l).run (calls f.finished)).2.1 = f.run.controller.correlator
  answered : ((Correlator.new l).run (calls f.finished)).1 = (failures f.finished).map (·.warned)
  times : (f.finished.map (·.now)).Pairwise (· ≤ ·)
  now : ∀ e ∈ f.finished, e.now ≤ f.run.now
  held : ∀ c ∈ f.held, ∃ before, before <+: f.finished ∧ c.kinds = lastKinds before

variable {l : Limits α}

theorem kept_start (limits : RateLimit → Limits α) (o : ControllerOptions) (now : Instant) :
    Kept (limits o.events) (start limits o now) where
  catalog := rfl
  told := nofun
  notices := rfl
  correlator := rfl
  answered := rfl
  times := List.Pairwise.nil
  now := nofun
  held := nofun

theorem calls_concat (es : List Finish) (e : Finish) :
    calls (es ++ [e]) =
      calls es ++ if e.failed then [(Controller.discoveryObject, e.now)] else [] := by
  rw [calls, failures, List.filter_append, List.map_append]
  cases h : e.failed <;> simp [h, calls, failures]

/-- A failure more is a call more, and its answer is whether there is a warning. -/
theorem run_calls_concat {first c : Correlator α} {es : List Finish}
    (hbefore : (first.run (calls es)).2.1 = c) (now : Instant) (refresh : Refresh) :
    let e : Finish := ⟨now, refresh, (Controller.report c now refresh).2⟩
    (first.run (calls (es ++ [e]))).2.1 = (Controller.report c now refresh).1 ∧
      (first.run (calls (es ++ [e]))).1 =
        (first.run (calls es)).1 ++ (failures [e]).map (·.warned) := by
  intro e
  rw [calls_concat, Correlator.run_append]
  dsimp only
  rw [hbefore]
  cases refresh with
  | ok groups =>
    simp [e, Correlator.run, failures, failed, groups?, Except.toOption, Controller.report]
  | error fault =>
    have hwarned : e.warned = (c.allow Controller.discoveryObject now).1 :=
      report_warned c now fault
    have hfailed : failures [e] = [e] := rfl
    rw [hfailed, List.map_singleton, hwarned]
    exact ⟨rfl, rfl⟩

theorem Kept.ended {refresh : Refresh} (h : Kept l f) (hend : Ended f refresh f')
    (hheld : f'.held = f.held) : Kept l f' := by
  obtain ⟨hcatalog, htold, hnotices, hcorrelator, hanswered, htimes, hnow, hprefix⟩ := h
  have hnew := report_told f.run.controller.correlator f.run.now refresh
  have hasked := run_calls_concat hcorrelator f.run.now refresh
  refine ⟨?_, ?_, ?_, ?_, ?_, ?_, ?_, ?_⟩
  · rw [hend.catalog, hend.finished, lastKinds_concat]
    cases refresh with
    | ok groups => rfl
    | error fault => exact hcatalog
  · rw [hend.finished]
    intro e he
    rcases List.mem_append.mp he with he | he
    · exact htold e he
    · exact List.mem_singleton.mp he ▸ hnew
  · rw [hend.told, hend.finished, List.filter_append, List.flatMap_append, hnotices, hnew.ofRefresh,
      List.flatMap_singleton]
  · rw [hend.finished, hend.correlator]
    exact hasked.1
  · rw [hend.finished, failures, List.filter_append, List.map_append]
    exact hasked.2.trans (congrArg (· ++ _) hanswered)
  · rw [hend.finished, List.map_append, List.pairwise_append]
    refine ⟨htimes, List.pairwise_singleton .., fun t ht u hu => ?_⟩
    obtain ⟨e, he, rfl⟩ := List.mem_map.mp ht
    rw [List.map_singleton, List.mem_singleton] at hu
    exact hu ▸ hnow e he
  · rw [hend.finished, hend.now]
    intro e he
    rcases List.mem_append.mp he with he | he
    · exact hnow e he
    · exact (List.mem_singleton.mp he) ▸ Nat.le_refl _
  · rw [hheld, hend.finished]
    intro c hc
    obtain ⟨before, hbefore, hkinds⟩ := hprefix c hc
    exact ⟨before, hbefore.trans (List.prefix_append ..), hkinds⟩

theorem Kept.quiet (h : Kept l f) (hquiet : Quiet f f')
    (hheld : f'.held = f.held ∨ f'.held = f.held ++ [f.run.catalog]) : Kept l f' := by
  obtain ⟨hcatalog, htold, hnotices, hcorrelator, hanswered, htimes, hnow, hprefix⟩ := h
  refine ⟨?_, ?_, ?_, ?_, ?_, ?_, ?_, ?_⟩
  · rw [hquiet.catalog, hquiet.finished, hcatalog]
  · rwa [hquiet.finished]
  · rw [hquiet.told, hquiet.finished, hnotices]
  · rw [hquiet.finished, hquiet.correlator, hcorrelator]
  · rw [hquiet.finished, hanswered]
  · rwa [hquiet.finished]
  · rw [hquiet.finished]
    exact fun e he => (hnow e he).trans hquiet.now
  · rw [hquiet.finished]
    intro c hc
    rcases hheld with hheld | hheld
    · exact hprefix c (hheld ▸ hc)
    · -- A list that is taken now is what the last refresh found.
      rw [hheld] at hc
      rcases List.mem_append.mp hc with hc | hc
      · exact hprefix c hc
      · exact ⟨f.finished, List.prefix_rfl, List.mem_singleton.mp hc ▸ hcatalog⟩

theorem held_step (f : Followed α) (m : Move) :
    (f.step m).held = f.held ∨ m = .hold ∧ (f.step m).held = f.held ++ [f.run.catalog] := by
  cases m with
  | hold => exact .inr ⟨rfl, rfl⟩
  | _ => exact .inl rfl

theorem Kept.step (h : Kept l f) (m : Move) : Kept l (f.step m) := by
  rcases step_cases f m with hquiet | ⟨refresh, hend⟩
  · exact h.quiet hquiet ((held_step f m).imp_right And.right)
  · rcases held_step f m with hheld | ⟨rfl, -⟩
    · exact h.ended hend hheld
    · exact absurd hend.finished (by simp [Followed.step])

/-- **Whatever happens keeps it.** -/
theorem kept_follow (limits : RateLimit → Limits α) (o : ControllerOptions) (now : Instant)
    (moves : List Move) : Kept (limits o.events) ((start limits o now).follow moves) := by
  induction moves using List.reverseRecOn with
  | nil => exact kept_start ..
  | append_singleton moves m ih =>
    rw [follow, List.foldl_append]
    exact ih.step m

/-! ### What is measured and logged -/

/-- What is counted of notices of refreshes is counted of the refreshes. -/
theorem Kept.countP_told (h : Kept l f) {p : Notice → Bool} {q : Finish → Bool}
    (hp : ∀ n, p n → n.ofRefresh)
    (hq : ∀ e : Finish, e.Told → e.told.countP p = if q e then 1 else 0) :
    f.told.countP p = f.finished.countP q := by
  have hfilter : f.told.countP p = (f.told.filter Notice.ofRefresh).countP p := by
    rw [List.countP_filter]
    refine List.countP_congr fun n _ => ?_
    rw [Bool.and_eq_true]
    exact ⟨fun hn => ⟨hn, hp n hn⟩, And.left⟩
  have htold := h.told
  rw [hfilter, h.notices]
  clear hfilter
  generalize f.finished = es at htold
  induction es with
  | nil => rfl
  | cons e es ih =>
    rw [List.flatMap_cons, List.countP_append, List.countP_cons, hq e (htold e List.mem_cons_self),
      ih fun e he => htold e (List.mem_cons_of_mem _ he), Nat.add_comm]

/-- What is read off notices of refreshes is read off the refreshes. -/
theorem Kept.filterMap_told {β : Type} (h : Kept l f) {p : Notice → Option β}
    {q : Finish → Option β}
    (hp : ∀ n, (p n).isSome → n.ofRefresh)
    (hq : ∀ e : Finish, e.Told → e.told.filterMap p = (q e).toList) :
    f.told.filterMap p = f.finished.filterMap q := by
  have hfilter : f.told.filterMap p = (f.told.filter Notice.ofRefresh).filterMap p := by
    rw [List.filterMap_filter]
    refine List.filterMap_congr fun n _ => ?_
    split
    · rfl
    · rename_i hn
      exact Option.not_isSome_iff_eq_none.mp fun hsome => hn (hp n hsome)
  rw [hfilter, h.notices, List.filterMap_flatMap, List.filterMap_eq_flatMap_toList]
  exact List.flatMap_congr fun e he => hq e (h.told e he)

/-- Nothing else is counted with refreshes, or with warnings held back. -/
theorem ofRefresh_of_counted {m : Measurement} {series : Metric × Labels}
    (hseries : series.1 = .discoveryRefreshes ∨ series.1 = .eventsSuppressed)
    (hm : series = m.counted) : (Notice.measured m).ofRefresh := by
  subst hm
  cases m <;> first | rfl | exact absurd hseries (by simp [Measurement.counted])

/-- A counter of refreshes, or of warnings held back, counts refreshes. -/
theorem Kept.count (h : Kept l f) {series : Metric × Labels} {q : Finish → Bool}
    (hseries : series.1 = .discoveryRefreshes ∨ series.1 = .eventsSuppressed)
    (hq : ∀ e : Finish, e.Told →
      (measurementsOf e.told).countP (series = ·.counted) = if q e then 1 else 0) (r : Registry) :
    (r.recordAll f.told).count series = r.count series + f.finished.countP q := by
  rw [Registry.count_recordAll, measurementsOf, List.countP_filterMap]
  congr 1
  refine h.countP_told (fun n hn => ?_) fun e he => ?_
  · cases n with
    | logged event => exact absurd hn (by simp [Notice.measurement?])
    | measured m => exact ofRefresh_of_counted hseries (by simpa [Notice.measurement?] using hn)
  · rw [← hq e he, measurementsOf, List.countP_filterMap]

/-- The gauge is what the last refresh set it to that did not fail. -/
theorem Kept.gauge (h : Kept l f) (r : Registry) :
    (r.recordAll f.told).resources =
      if successes f.finished = [] then r.resources else some (Float.ofNat f.run.catalog.size) := by
  have hgauged : (measurementsOf f.told).filterMap Measurement.gauged =
      (successes f.finished).map fun groups => (Discovery.kinds groups).length := by
    rw [measurementsOf, List.filterMap_filterMap, successes, List.map_filterMap]
    refine h.filterMap_told (fun n hn => ?_) fun e he => ?_
    · rcases n with _ | (_ | _ | _ | _ | _ | _ | _) <;>
        simp_all [Notice.measurement?, Measurement.gauged, Notice.ofRefresh]
    · cases he <;> simp [List.filterMap_cons, Notice.measurement?, Measurement.gauged, groups?,
        Except.toOption]
  rw [Registry.resources_recordAll, hgauged, List.getLast?_map, Catalog.size, h.catalog, lastKinds]
  rcases hlast : (successes f.finished).getLast? with _ | groups
  · rw [if_pos (List.getLast?_eq_none_iff.mp hlast)]
    rfl
  · have hsome : successes f.finished ≠ [] := fun hnil => by simp [hnil] at hlast
    rw [if_neg hsome]
    rfl

/-- What is logged of refreshes are the numbers of resources that were found. -/
theorem Kept.logged (h : Kept l f) :
    (logsOf f.told).filterMap LogEvent.refreshed? =
      (successes f.finished).map fun groups => (Discovery.kinds groups).length := by
  rw [logsOf, List.filterMap_filterMap, successes, List.map_filterMap]
  refine h.filterMap_told (fun n hn => ?_) fun e he => ?_
  · rcases n with event | m
    · cases event <;> first | rfl | exact absurd hn nofun
    · exact absurd hn nofun
  · cases he <;> simp [List.filterMap_cons, Notice.log?, LogEvent.refreshed?, groups?,
      Except.toOption]

theorem Kept.warnings (h : Kept l f) :
    (logsOf f.told).countP (·.message = "Failed to refresh discovery cache") =
      f.finished.countP (·.warned) := by
  rw [logsOf, List.countP_filterMap]
  refine h.countP_told (fun n hn => ?_) fun e he => ?_
  · rcases n with event | m
    · -- No other log entry says this.
      cases event <;> first | rfl | exact absurd hn (by simp [Notice.log?, LogEvent.message])
    · exact absurd hn Bool.false_ne_true
  · cases he <;> simp [Notice.log?, LogEvent.message, Finish.warned, logsOf]

/-! ### After a stop -/

/-- What a refresh that was cut off leaves: nothing of refreshes changes any more. -/
structure Same (f f' : Followed α) : Prop where
  catalog : f'.run.catalog = f.run.catalog
  finished : f'.finished = f.finished
  told : f'.told.filter Notice.ofRefresh = f.told.filter Notice.ofRefresh

/-- A discovery task that does not run neither rests nor inquires. -/
theorem idle_of_ended {α : Type} {r : Controller α} (h : r.discovery.isRunning = false) :
    r.resting? = none ∧ r.inquiry? = none := by
  rw [Controller.resting?, Controller.inquiry?]
  rcases hdiscovery : r.discovery with (_ | _ | _) | _ | _
  · exact ⟨rfl, rfl⟩
  · exact absurd h (by simp [hdiscovery, Task.isRunning])
  · exact absurd h (by simp [hdiscovery, Task.isRunning])
  · exact ⟨rfl, rfl⟩
  · exact ⟨rfl, rfl⟩

/-- Nor does it run for the first time any more. -/
theorem discovery_beginDiscovery {α : Type} {r : Controller α} (h : r.discovery.isRunning = false)
    (now : Instant) : (r.beginDiscovery now).discovery = r.discovery := by
  unfold Controller.beginDiscovery
  split
  · rename_i hspawned
    rw [hspawned] at h
    cases h
  · rfl

theorem discovery_tickFlush {α : Type} (r : Controller α) (now : Instant) :
    (r.tickFlush now).1.discovery = r.discovery := by
  rw [Controller.tickFlush]
  split
  · split
    · split <;> rfl
    · rfl
  · rfl

theorem step_of_ended (h : f.run.controller.discovery.isRunning = false) (m : Move) :
    (f.step m).run.controller.discovery.isRunning = false ∧ Same f (f.step m) := by
  obtain ⟨hresting, hinquiry⟩ := idle_of_ended h
  have hsame : Same f (f.step m) := by
    rcases step_cases f m with hquiet | ⟨refresh, hend⟩
    · exact ⟨hquiet.catalog, hquiet.finished, hquiet.told⟩
    · -- No inquiry is left that could end.
      refine absurd hend.finished ?_
      cases m with
      | act a =>
        rcases hending : ending? f.run a with _ | refresh'
        · simp [Followed.step, hending]
        · obtain ⟨ticker, -, hdone⟩ := inquiry_of_ending hending
          exact absurd (hinquiry.symm.trans hdone) nofun
      | proceed plan => simp [Followed.step]
      | hold => simp [Followed.step]
  refine ⟨?_, hsame⟩
  cases m with
  | act a =>
    cases a with
    | beginDiscovery =>
      show (f.run.controller.beginDiscovery f.run.now).discovery.isRunning = false
      rw [discovery_beginDiscovery h]
      exact h
    | beginFlush =>
      show (f.run.controller.beginFlush f.run.now).discovery.isRunning = false
      rw [Controller.beginFlush_eq]
      exact h
    | tickDiscovery =>
      simpa [Followed.step, ControllerRun.step, Controller.tickDiscovery, hresting] using h
    | answer fetched => simpa [Followed.step, ControllerRun.step, Controller.hear, hinquiry] using h
    | conclude => simpa [Followed.step, ControllerRun.step, Controller.conclude, hinquiry] using h
    | tickFlush => simpa [Followed.step, ControllerRun.step, discovery_tickFlush] using h
    | stop => exact Task.isRunning_stop _
    | wait nanos => exact h
    | pickUp worker => exact h
  | proceed plan => simpa [Followed.step, Controller.proceed, hinquiry] using h
  | hold => exact h

theorem same_after_stop (f : Followed α) (moves : List Move) :
    Same f ((f.step (.act .stop)).follow moves) := by
  have hstop : (f.step (.act .stop)).run.controller.discovery.isRunning = false :=
    Task.isRunning_stop _
  have hsame : Same f (f.step (.act .stop)) := by
    refine ⟨rfl, by simp [Followed.step, ending?], ?_⟩
    show (f.told ++ (f.run.controller.shutDown f.run.now).2.2).filter Notice.ofRefresh = _
    rw [List.filter_append, Controller.shutDown, stop_quiet, List.append_nil]
  -- By induction on what comes after: it is still stopped, and still the same.
  suffices h : ((f.step (.act .stop)).follow moves).run.controller.discovery.isRunning = false ∧
      Same f ((f.step (.act .stop)).follow moves) from h.2
  induction moves using List.reverseRecOn with
  | nil => exact ⟨hstop, hsame⟩
  | append_singleton moves m ih =>
    obtain ⟨hended, hbefore⟩ := ih
    obtain ⟨hended', hstep⟩ := step_of_ended hended m
    rw [follow, List.foldl_append]
    exact ⟨hended', hstep.catalog.trans hbefore.catalog, hstep.finished.trans hbefore.finished,
      hstep.told.trans hbefore.told⟩

/-! ### What is promised of refreshes -/

/-- What the catalog, the metrics and the log say of the refreshes that ended. -/
structure Accounted (f : Followed α) : Prop where
  /-- The catalog holds all that the last refresh found that did not fail. -/
  catalog : f.run.catalog.kinds = lastKinds f.finished
  /-- It is put there at once, when that refresh ends, and is left alone by all else. -/
  swapped : ∀ m, (f.step m).run.catalog = f.run.catalog ∧ successes (f.step m).finished =
      successes f.finished ∨
    ∃ groups, successes (f.step m).finished = successes f.finished ++ [groups] ∧
      (f.step m).run.catalog.kinds = Discovery.kinds groups
  /-- A list that was taken is all that the last refresh found by then, and stays so. -/
  held : ∀ c ∈ f.held, ∃ before, before <+: f.finished ∧ c.kinds = lastKinds before
  taken : (f.step .hold).held = f.held ++ [f.run.catalog]
  lasts : ∀ moves, f.held <+: (f.follow moves).held
  /-- Once it is set, the gauge says how many kinds are in the catalog. -/
  gauge : ∀ r : Registry, (r.recordAll f.told).resources =
    if successes f.finished = [] then r.resources else some (Float.ofNat f.run.catalog.size)
  /-- And so does the log, each time. -/
  logged : (logsOf f.told).filterMap LogEvent.refreshed? =
    (successes f.finished).map fun groups => (Discovery.kinds groups).length
  succeeded : ∀ r : Registry,
    (r.recordAll f.told).count (.discoveryRefreshes, [("result", "success")]) =
      r.count (.discoveryRefreshes, [("result", "success")]) + f.finished.countP (!·.failed)
  failed : ∀ r : Registry,
    (r.recordAll f.told).count (.discoveryRefreshes, [("result", "error")]) =
      r.count (.discoveryRefreshes, [("result", "error")]) + f.finished.countP (·.failed)
  warned : (logsOf f.told).countP (·.message = "Failed to refresh discovery cache") =
    f.finished.countP (·.warned)
  suppressed : ∀ r : Registry, (r.recordAll f.told).count (.eventsSuppressed, []) =
    r.count (.eventsSuppressed, []) + f.finished.countP (·.suppressed)
  /-- Of each refresh that failed there is one of the two, and of no other. -/
  oneOf : ∀ e ∈ f.finished, (e.failed → e.warned = !e.suppressed) ∧
    (e.failed = false → e.warned = false ∧ e.suppressed = false)
  ordered : (f.finished.map (·.now)).Pairwise (· ≤ ·)
  /-- A refresh that is cut off by a stop is known to none of them, and none comes later. -/
  cancelled : ∀ moves, Same f ((f.step (.act .stop)).follow moves)

theorem held_follow (f : Followed α) (moves : List Move) : f.held <+: (f.follow moves).held := by
  induction moves using List.reverseRecOn with
  | nil => exact List.prefix_rfl
  | append_singleton moves m ih =>
    rw [follow, List.foldl_append]
    refine ih.trans ?_
    rcases held_step (f.follow moves) m with hheld | ⟨-, hheld⟩
    · exact hheld ▸ List.prefix_rfl
    · exact hheld ▸ List.prefix_append ..

theorem swapped (f : Followed α) (m : Move) :
    (f.step m).run.catalog = f.run.catalog ∧ successes (f.step m).finished = successes f.finished ∨
      ∃ groups, successes (f.step m).finished = successes f.finished ++ [groups] ∧
        (f.step m).run.catalog.kinds = Discovery.kinds groups := by
  rcases step_cases f m with hquiet | ⟨refresh, hend⟩
  · exact .inl ⟨hquiet.catalog, by rw [hquiet.finished]⟩
  · rw [hend.finished, hend.catalog, successes, List.filterMap_append]
    cases refresh with
    | ok groups => exact .inr ⟨groups, rfl, rfl⟩
    | error fault => exact .inl ⟨rfl, List.append_nil _⟩

theorem Kept.accounted (h : Kept l f) : Accounted f where
  catalog := h.catalog
  swapped := swapped f
  held := h.held
  taken := rfl
  lasts := held_follow f
  gauge := h.gauge
  logged := h.logged
  succeeded := h.count (.inl rfl) fun e he => by
    cases he <;>
      simp [measurementsOf, Notice.measurement?, Measurement.counted, Finish.failed, groups?,
        Except.toOption]
  failed := h.count (.inl rfl) fun e he => by
    cases he <;>
      simp [measurementsOf, Notice.measurement?, Measurement.counted, Finish.failed, groups?,
        Except.toOption]
  warned := h.warnings
  suppressed := h.count (.inr rfl) fun e he => by
    cases he <;> simp [measurementsOf, Notice.measurement?, Measurement.counted, Finish.suppressed]
  oneOf := fun e he => (h.told e he).one_of
  ordered := h.times
  cancelled := same_after_stop f

end

/-! ### Windows of time -/

/-- No window of time holds more warnings than the burst and what the rate gives for it. -/
def Enveloped (l : Limits ℚ) (f : Followed ℚ) : Prop :=
  ∀ s t : Instant, s ≤ t →
    ((f.finished.countP fun e => e.warned && decide (s ≤ e.now ∧ e.now ≤ t) : ℕ) : ℚ) ≤
      l.capacity + l.rate * secondsOf (t - s)

theorem object_calls {es : List Finish} {call : String × Instant} (h : call ∈ calls es) :
    decide (call.1 = Controller.discoveryObject) = true := by
  obtain ⟨e, -, rfl⟩ := List.mem_map.mp h
  exact decide_eq_true rfl

theorem instantsOf_calls (es : List Finish) :
    Correlator.instantsOf Controller.discoveryObject (calls es) = (failures es).map (·.now) := by
  rw [Correlator.instantsOf, List.filter_eq_self.mpr fun _ => object_calls, calls, List.map_map]
  rfl

theorem answersOf_calls (es : List Finish) {as : List Bool} (h : as.length = (calls es).length) :
    Correlator.answersOf Controller.discoveryObject (calls es) as = as := by
  rw [Correlator.answersOf, List.filter_eq_self.mpr fun _ hcall =>
    object_calls (List.of_mem_zip hcall).1]
  exact List.map_snd_zip h.le

theorem Kept.enveloped {l : Limits ℚ} {f : Followed ℚ} (hl : l.Valid) (h : Kept l f) :
    Enveloped l f := by
  intro s t hst
  -- The failures ask the limit for warnings in the order of the clock.
  have hsorted : ((failures f.finished).map (·.now)).Pairwise (· ≤ ·) :=
    h.times.sublist (List.filter_sublist.map _)
  have hown : (failures f.finished).map (·.warned) =
      Correlator.ownAnswers l none ((failures f.finished).map (·.now)) := by
    have hanswers := Correlator.answersOf_new l Controller.discoveryObject (calls f.finished)
    rw [answersOf_calls _ (Correlator.length_run ..), h.answered, instantsOf_calls] at hanswers
    exact hanswers
  have hcount : (f.finished.countP fun e => e.warned && decide (s ≤ e.now ∧ e.now ≤ t)) =
      Bucket.grantsWithin s t ((failures f.finished).map (·.now))
        ((failures f.finished).map (·.warned)) := by
    rw [Bucket.grantsWithin, List.zip_map', List.countP_map, failures, List.countP_filter]
    refine List.countP_congr fun e he => ?_
    have hone := (h.told e he).one_of.2
    cases hfailed : e.failed
    · simp [(hone hfailed).1]
    · simp
  rw [hcount, hown, mul_comm l.rate]
  exact Correlator.grantsWithin_le hl hsorted hst

/-! ### Every controller -/

/-- **What is known of refreshes agrees.** However refreshes end and whenever the controller is
stopped, the catalog, the metrics and the log say the same of those that ended; and warnings of
failures keep to the limit for events, in exact arithmetic. -/
theorem refreshes_accounted (o : ControllerOptions) (began : Instant) (moves : List Move) :
    (∀ {α : Type} [TokenArithmetic α] (limits : RateLimit → Limits α),
      Accounted ((start limits o began).follow moves)) ∧
    ∀ limits : RateLimit → Limits ℚ, (limits o.events).Valid →
      Enveloped (limits o.events) ((start limits o began).follow moves) :=
  ⟨fun limits => (kept_follow limits o began moves).accounted,
    fun limits hl => (kept_follow limits o began moves).enveloped hl⟩

/-- A control plane that serves pods only. -/
def pods : List ServedGroup := [⟨"", [⟨"v1", [⟨"", "v1", "Pod", "pods"⟩]⟩], some "v1"⟩]

/-- A refresh that ends in a way, and a second after it. -/
def refreshing (refresh : Refresh) : List Move :=
  [.act .tickDiscovery, .proceed (.done refresh), .act .conclude, .act (.wait 1000000000)]

/-- A controller that refreshes each second, with one warning at once and one more in ten
seconds. -/
def eachSecond : ControllerOptions := ⟨Span.ofSeconds 1, Span.ofSeconds 60, 1, ⟨0.1, 1⟩⟩

/-- Of two failures one is warned of, and the pods that are found then outlast a stop. -/
theorem one_warning_of_two_failures :
    let limits : RateLimit → Limits ℚ := fun _ => ⟨1, 1 / 10⟩
    let moves := .act .beginDiscovery :: refreshing (.error .malformed) ++
      refreshing (.error .malformed) ++ refreshing (.ok pods) ++
        [.act .tickDiscovery, .act .stop, .act .conclude]
    let f := (start limits eachSecond 0).follow moves
    (limits eachSecond.events).Valid ∧ f.finished.map (·.warned) = [true, false, false] ∧
      f.finished.map (·.suppressed) = [false, true, false] ∧ f.run.catalog.size = 1 ∧
      Accounted f ∧ Enveloped (limits eachSecond.events) f := by
  intro limits moves f
  have hl : (limits eachSecond.events).Valid := ⟨by decide +kernel, by decide +kernel⟩
  obtain ⟨haccounted, henveloped⟩ := refreshes_accounted eachSecond 0 moves
  refine ⟨hl, by decide +kernel, by decide +kernel, by decide +kernel, haccounted limits,
    henveloped limits hl⟩

end Followed

end ClusterAgent
