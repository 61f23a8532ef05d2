/-
When the tasks of a controller panic.

All that a task works out of the clock is when its next tick is due.  A tick that comes
on time is put off if there is no such instant; but the first flush, and the tick after
one that came late, are a period away from now, and the task panics if that does not fit
the clock.  The first flush is worked out when the flush task runs for the first time,
however long after the start that is.

* `Ticker.Since.tick` — what taking a tick comes to;
* `ControllerRun.steady_run` — what holds of the tasks all along a run;
* `ControllerRun.stops_ok_iff` — a controller started with an accepted configuration
  stops well at any time exactly when these sums fit the clock;
* `ControllerRun.stops_within_century` — as they do with the defaults for a century;
* `ControllerRun.panic_of_endless_interval` — an accepted interval that does not.

Design notes: nothing else can panic.  An accepted interval is not zero, workers do not
look at the clock, and the wait for a token is cut off at the longest span.
-/
import ClusterAgent.Controller.Run
import ClusterAgent.Proofs.Config.Resolution

namespace ClusterAgent

/-! ### Tickers -/

namespace Ticker

/-- A ticker as it goes on after a first tick. -/
structure Since (first : Instant) (period : Span) (t : Ticker) : Prop where
  period : t.period = period
  due : first ≤ t.due

/-- A tick that was due at `first` can be taken so late that the next one does not fit the clock. -/
def TooLate (first : Instant) (period : Span) (now : Instant) : Prop :=
  first + tolerance < now ∧ endOfTime ≤ now + period.nanos

variable {first now : Instant} {period : Span} {t : Ticker}

theorem TooLate.mono {later : Instant} (h : TooLate first period now) (hle : now ≤ later) :
    TooLate first period later := by
  obtain ⟨hlate, hend⟩ := h
  exact ⟨lt_of_lt_of_le hlate hle, le_trans hend (Nat.add_le_add_right hle _)⟩

theorem ahead?_eq_none_iff (now : Instant) (period : Span) :
    ahead? now period = none ↔ endOfTime ≤ now + period.nanos := by
  unfold ahead?
  split
  · rename_i hlt
    exact iff_of_false nofun (Nat.not_le.mpr hlt)
  · rename_i hge
    exact iff_of_true rfl (Nat.not_lt.mp hge)

theorem le_ahead? {due : Instant} (h : ahead? now period = some due) : now ≤ due := by
  unfold ahead? at h
  split at h
  · cases h
    exact Nat.le_add_right _ _
  · cases h

end Ticker

namespace Task

variable {σ τ : Type} {ok : σ → Prop} {why why' : Prop}

/-- A task of which something holds while it runs, and which panics for a reason only. -/
def Keeps (ok : σ → Prop) (why : Prop) : Task σ → Prop
  | running state => ok state
  | ended => True
  | panicked _ => why

theorem Keeps.imp {t : Task σ} (h : t.Keeps ok why) (hwhy : why → why') : t.Keeps ok why' := by
  cases t with
  | running state => exact h
  | ended => trivial
  | panicked cause => exact hwhy h

theorem Keeps.stop {t : Task σ} (h : t.Keeps ok why) : t.stop.Keeps ok why := by
  cases t with
  | running state => trivial
  | ended => trivial
  | panicked cause => exact h

theorem Keeps.map {ok' : τ → Prop} {x : Except TaskPanic σ} {f : σ → τ}
    (h : (Task.begin x).Keeps ok why) (hf : ∀ state, ok state → ok' (f state)) :
    (Task.begin (x.map f)).Keeps ok' why := by
  cases x with
  | ok state => exact hf state h
  | error cause => exact h

theorem Keeps.panic?_eq_none {t : Task σ} (h : t.Keeps ok why) (hwhy : ¬ why) :
    t.panic? = none := by
  cases t with
  | running state => rfl
  | ended => rfl
  | panicked cause => exact absurd h hwhy

end Task

namespace Ticker

variable {first now : Instant} {period : Span} {t : Ticker}

theorem starting_eq (hp : period.isZero = false) : starting now period = .ok ⟨now, period⟩ := by
  rw [starting, hp]
  rfl

theorem after_eq (hp : period.isZero = false) :
    after now period =
      if now + period.nanos < endOfTime then .ok ⟨now + period.nanos, period⟩
      else .error .instantOverflow := by
  unfold after ahead?
  rw [hp]
  by_cases hfit : now + period.nanos < endOfTime
  · rw [if_pos hfit, if_pos hfit]
    rfl
  · rw [if_neg hfit, if_neg hfit]

theorem keeps_after (now : Instant) (hp : period.isZero = false) :
    (Task.begin (after now period)).Keeps (Since (now + period.nanos) period)
      (endOfTime ≤ now + period.nanos) := by
  rw [after_eq hp]
  by_cases hfit : now + period.nanos < endOfTime
  · rw [if_pos hfit]
    exact ⟨rfl, le_rfl⟩
  · rw [if_neg hfit]
    exact Nat.not_lt.mp hfit

/-- A due tick is taken, unless it is taken too late. -/
theorem Since.tick (h : t.Since first period) (hdue : t.isDue now = true) :
    (Task.begin (t.tick now)).Keeps (Since first period) (TooLate first period now) := by
  obtain ⟨rfl, hfirst⟩ := h
  have hnow : t.due ≤ now := of_decide_eq_true hdue
  unfold Ticker.tick
  by_cases hlate : t.due + tolerance < now
  · rw [if_pos hlate]
    cases hnext : ahead? now t.period with
    | none =>
      have hend := (ahead?_eq_none_iff now t.period).mp hnext
      exact ⟨lt_of_le_of_lt (Nat.add_le_add_right hfirst _) hlate, hend⟩
    | some due => exact ⟨rfl, le_trans (le_trans hfirst hnow) (le_ahead? hnext)⟩
  · -- On time there is always a next tick, if need be one that is put off from now.
    rw [if_neg hlate]
    refine ⟨rfl, ?_⟩
    cases hnext : ahead? t.due t.period with
    | none => exact le_trans (le_trans hfirst hnow) (Nat.le_add_right _ _)
    | some due => exact le_trans hfirst (le_ahead? hnext)

theorem isDue_of_late (hlate : t.due + tolerance < now) : t.isDue now = true :=
  decide_eq_true (le_of_lt (lt_of_le_of_lt (Nat.le_add_right _ _) hlate))

/-- A tick that was due long ago is taken too late. -/
theorem tick_eq_error (hlate : t.due + tolerance < now) (hend : endOfTime ≤ now + t.period.nanos) :
    t.tick now = .error .instantOverflow := by
  rw [tick, if_pos hlate, (ahead?_eq_none_iff now t.period).mpr hend]

end Ticker

/-! ### Tasks -/

/-- A discovery task with that period; once it runs, its ticker goes on from an instant on. -/
def Refresher.Since (began : Instant) (period : Span) : Refresher → Prop
  | spawned p => p = period
  | resting ticker | inquiring ticker _ => ticker.Since began period

/-- The period of a flush task. -/
def Flusher.period : Flusher → Span
  | spawned period => period
  | ticking ticker => ticker.period

theorem Relist.look_panic? (r : Relist) (resources id : Nat) {w : Task Nat} (h : w.panic? = none) :
    (r.look resources id w).1.panic? = none := by
  cases w with
  | running seen =>
    unfold Relist.look
    dsimp only
    split
    · rfl
    · split
      · rfl
      · rfl
  | ended => rfl
  | panicked cause => cases h

namespace Controller

variable {α : Type} {r : Controller α} {o : ControllerOptions} {began now : Instant}

theorem discovery_of_resting? {t : Ticker} (h : r.resting? = some t) :
    r.discovery = .running (.resting t) := by
  unfold resting? at h
  split at h
  · rename_i heq
    cases h
    exact heq
  · cases h

theorem discovery_of_inquiry? {t : Ticker} {plan : Plan Refresh} (h : r.inquiry? = some (t, plan)) :
    r.discovery = .running (.inquiring t plan) := by
  unfold inquiry? at h
  split at h
  · rename_i heq
    cases h
    exact heq
  · cases h

/-- What holds of the tasks of a controller: they keep their periods, and only a sum that does
not fit the clock makes a task panic. -/
structure Steady (o : ControllerOptions) (began now : Instant) (r : Controller α) : Prop where
  began_le : began ≤ now
  discovery : r.discovery.Keeps (Refresher.Since began o.discoveryInterval)
    (Ticker.TooLate began o.discoveryInterval now)
  flush : r.flush.Keeps (fun s => s.period = o.cacheFlushInterval)
    (Ticker.endOfTime ≤ now + o.cacheFlushInterval.nanos)
  workers : ∀ w ∈ r.relist.workers, w.panic? = none

namespace Steady

theorem mono (h : r.Steady o began now) {later : Instant} (hle : now ≤ later) :
    r.Steady o began later where
  began_le := le_trans h.began_le hle
  discovery := h.discovery.imp fun hlate => hlate.mono hle
  flush := h.flush.imp fun hend => le_trans hend (Nat.add_le_add_right hle _)
  workers := h.workers

theorem discovering (h : r.Steady o began now) {s : Refresher} (hs : r.discovery = .running s) :
    s.Since began o.discoveryInterval := by
  have hd := h.discovery
  rw [hs] at hd
  exact hd

theorem flushing (h : r.Steady o began now) {s : Flusher} (hs : r.flush = .running s) :
    s.period = o.cacheFlushInterval := by
  have hf := h.flush
  rw [hs] at hf
  exact hf

theorem beginDiscovery (h : r.Steady o began now) (hd : o.discoveryInterval.isZero = false) :
    (r.beginDiscovery now).Steady o began now := by
  unfold Controller.beginDiscovery
  split
  · rename_i period hspawned
    obtain rfl : period = o.discoveryInterval := h.discovering hspawned
    refine ⟨h.began_le, ?_, h.flush, h.workers⟩
    rw [Ticker.starting_eq hd]
    exact ⟨rfl, h.began_le⟩
  · exact h

theorem beginFlush (h : r.Steady o began now) (hf : o.cacheFlushInterval.isZero = false) :
    (r.beginFlush now).Steady o began now := by
  unfold Controller.beginFlush
  split
  · rename_i period hspawned
    obtain rfl : period = o.cacheFlushInterval := h.flushing hspawned
    have hfirst := Ticker.keeps_after now hf
    split
    · rename_i t hafter
      rw [hafter] at hfirst
      exact ⟨h.began_le, h.discovery, hfirst.period, h.workers⟩
    · rename_i cause hafter
      rw [hafter] at hfirst
      exact ⟨h.began_le, h.discovery, hfirst, h.workers⟩
  · exact h

theorem begin (h : r.Steady o began now) (hd : o.discoveryInterval.isZero = false)
    (hf : o.cacheFlushInterval.isZero = false) : (r.begin now).Steady o began now :=
  (h.beginDiscovery hd).beginFlush hf

theorem tickDiscovery (h : r.Steady o began now) : (r.tickDiscovery now).Steady o began now := by
  unfold Controller.tickDiscovery
  cases hrest : r.resting? with
  | none => exact h
  | some t =>
    dsimp only
    have ht : t.Since began o.discoveryInterval := h.discovering (discovery_of_resting? hrest)
    by_cases hdue : t.isDue now = true
    · rw [if_pos hdue]
      exact ⟨h.began_le, (ht.tick hdue).map fun _ ht' => ht', h.flush, h.workers⟩
    · rw [if_neg hdue]
      exact h

theorem proceed (h : r.Steady o began now) (plan : Plan Refresh) :
    (r.proceed plan).Steady o began now := by
  unfold Controller.proceed
  cases hask : r.inquiry? with
  | none => exact h
  | some p =>
    obtain ⟨t, asked⟩ := p
    have ht := h.discovering (discovery_of_inquiry? hask)
    exact ⟨h.began_le, ht, h.flush, h.workers⟩

theorem hear (h : r.Steady o began now) (fetched : Fetched) :
    (r.hear fetched).Steady o began now := by
  unfold Controller.hear
  split
  · exact h.proceed _
  · exact h

theorem conclude [TokenArithmetic α] (h : r.Steady o began now) (catalog : Catalog) :
    (r.conclude catalog now).1.Steady o began now := by
  unfold Controller.conclude
  split
  · rename_i heq
    have ht := h.discovering (discovery_of_inquiry? heq)
    exact ⟨h.began_le, ht, h.flush, h.workers⟩
  · exact h

theorem tickFlush (h : r.Steady o began now) : (r.tickFlush now).1.Steady o began now := by
  unfold Controller.tickFlush
  split
  · rename_i t hflush
    have hperiod : t.period = o.cacheFlushInterval := h.flushing hflush
    split
    · rename_i hdue
      have ht : t.Since t.due o.cacheFlushInterval := ⟨hperiod, le_rfl⟩
      have hnext := ht.tick hdue
      split
      · rename_i t' htick
        rw [htick] at hnext
        exact ⟨h.began_le, h.discovery, hnext.period, h.workers⟩
      · rename_i cause htick
        rw [htick] at hnext
        exact ⟨h.began_le, h.discovery, hnext.2, h.workers⟩
    · exact h
  · exact h

theorem wake (h : r.Steady o began now) (resources id : Nat) :
    { r with relist := (r.relist.wake resources id).1 }.Steady o began now := by
  refine ⟨h.began_le, h.discovery, h.flush, ?_⟩
  intro w hw
  dsimp only [Relist.wake] at hw
  cases hget : r.relist.workers[id]? with
  | none =>
    rw [hget] at hw
    exact h.workers w hw
  | some w' =>
    rw [hget] at hw
    rcases List.mem_or_eq_of_mem_set hw with hmem | rfl
    · exact h.workers w hmem
    · exact r.relist.look_panic? resources id (h.workers w' (List.mem_of_getElem? hget))

theorem stop (h : r.Steady o began now) : r.stop.1.Steady o began now := by
  refine ⟨h.began_le, h.discovery.stop, h.flush.stop, ?_⟩
  intro w hw
  obtain ⟨w', hw', rfl⟩ := List.mem_map.mp hw
  rw [Task.panic?_stop]
  exact h.workers w' hw'

end Steady

theorem beginDiscovery_flush (r : Controller α) (now : Instant) :
    (r.beginDiscovery now).flush = r.flush := by
  rw [beginDiscovery_eq]

theorem beginFlush_discovery (r : Controller α) (now : Instant) :
    (r.beginFlush now).discovery = r.discovery := by
  rw [beginFlush_eq]

theorem steady_start [TokenArithmetic α] (limits : RateLimit → Limits α) :
    (start limits o).1.Steady o now now where
  began_le := le_rfl
  discovery := rfl
  flush := rfl
  workers := by
    intro w hw
    obtain rfl := List.eq_of_mem_replicate hw
    rfl

/-- A discovery task that runs for the first time rests. -/
theorem beginDiscovery_rests {period : Span} (hspawned : r.discovery = .running (.spawned period))
    (hp : period.isZero = false) :
    (r.beginDiscovery now).discovery = .running (.resting ⟨now, period⟩) := by
  unfold beginDiscovery
  rw [hspawned]
  dsimp only
  rw [Ticker.starting_eq hp]
  rfl

theorem begin_discovery_of_panicked {cause : TaskPanic} (h : r.discovery = .panicked cause) :
    (r.begin now).discovery = .panicked cause := by
  rw [begin, beginFlush_discovery, beginDiscovery, h]
  exact h

/-- A discovery task that takes its tick too late panics. -/
theorem tickDiscovery_panics {t : Ticker} (hrest : r.discovery = .running (.resting t))
    (hlate : t.due + Ticker.tolerance < now) (hend : Ticker.endOfTime ≤ now + t.period.nanos) :
    (r.tickDiscovery now).discovery = .panicked .instantOverflow := by
  have hrest' : r.resting? = some t := by rw [resting?, hrest]
  rw [tickDiscovery, hrest']
  dsimp only
  rw [if_pos (Ticker.isDue_of_late hlate), Ticker.tick_eq_error hlate hend]
  rfl

/-- A flush task that runs for the first time too late panics. -/
theorem beginFlush_panics {period : Span} (hspawned : r.flush = .running (.spawned period))
    (hp : period.isZero = false) (hend : Ticker.endOfTime ≤ now + period.nanos) :
    (r.beginFlush now).flush = .panicked .instantOverflow := by
  have hafter : Ticker.after now period = .error .instantOverflow := by
    rw [Ticker.after_eq hp, if_neg (Nat.not_lt.mpr hend)]
  unfold beginFlush
  rw [hspawned]
  dsimp only
  rw [hafter]

theorem stop_eq_ok_iff (r : Controller α) : r.stop.2.1 = .ok () ↔ r.panics = [] := by
  unfold stop
  cases r.panics with
  | nil => exact iff_of_true rfl rfl
  | cons p ps => exact iff_of_false nofun nofun

theorem panics_eq_nil_iff (r : Controller α) :
    r.panics = [] ↔
      r.discovery.panic? = none ∧ r.flush.panic? = none ∧
        ∀ w ∈ r.relist.workers, w.panic? = none := by
  simp [panics]

end Controller

/-! ### Runs -/

namespace ControllerRun

variable {α : Type} [TokenArithmetic α] {o : ControllerOptions} {began : Instant}

theorem steady_step (hd : o.discoveryInterval.isZero = false)
    (hf : o.cacheFlushInterval.isZero = false) {s : ControllerRun α}
    (h : s.controller.Steady o began s.now) (a : Action) :
    (s.step a).1.controller.Steady o began (s.step a).1.now := by
  cases a with
  | wait nanos => exact h.mono (Nat.le_add_right _ _)
  | beginDiscovery => exact h.beginDiscovery hd
  | beginFlush => exact h.beginFlush hf
  | tickDiscovery => exact h.tickDiscovery
  | answer fetched => exact h.hear fetched
  | conclude => exact h.conclude s.catalog
  | tickFlush => exact h.tickFlush
  | pickUp worker => exact h.wake s.catalog.size worker
  | stop => exact (h.begin hd hf).stop

theorem steady_run (hd : o.discoveryInterval.isZero = false)
    (hf : o.cacheFlushInterval.isZero = false) {s : ControllerRun α}
    (h : s.controller.Steady o began s.now) (actions : List Action) :
    (s.run actions).1.controller.Steady o began (s.run actions).1.now := by
  induction actions generalizing s with
  | nil => exact h
  | cons a rest ih => exact ih (steady_step hd hf h a)

end ControllerRun

/-- The sums of instants and intervals that the tasks may have to work out fit the clock. -/
structure ControllerOptions.Fits (o : ControllerOptions) (began now : Instant) : Prop where
  flush : now + o.cacheFlushInterval.nanos < Ticker.endOfTime
  lateDiscovery : began + Ticker.tolerance < now →
    now + o.discoveryInterval.nanos < Ticker.endOfTime

theorem ControllerOptions.Fits.mono {o : ControllerOptions} {began now later : Instant}
    (h : o.Fits began later) (hle : now ≤ later) : o.Fits began now where
  flush := lt_of_le_of_lt (Nat.add_le_add_right hle _) h.flush
  lateDiscovery hlate :=
    lt_of_le_of_lt (Nat.add_le_add_right hle _) (h.lateDiscovery (lt_of_lt_of_le hlate hle))

theorem Controller.Steady.panics_eq_nil {α : Type} {r : Controller α} {o : ControllerOptions}
    {began now : Instant} (h : r.Steady o began now) (hfits : o.Fits began now) :
    r.panics = [] := by
  refine r.panics_eq_nil_iff.mpr
    ⟨h.discovery.panic?_eq_none ?_, h.flush.panic?_eq_none ?_, h.workers⟩
  · rintro ⟨hlate, hend⟩
    exact Nat.not_lt.mpr hend (hfits.lateDiscovery hlate)
  · exact Nat.not_le.mpr hfits.flush

namespace ControllerRun

variable {α : Type} [TokenArithmetic α] {o : ControllerOptions} {began now : Instant}
  {limits : RateLimit → Limits α}

omit [TokenArithmetic α] in
theorem outcome_eq_ok_iff (s : ControllerRun α) :
    s.outcome = .ok () ↔ (s.controller.begin s.now).panics = [] :=
  (s.controller.begin s.now).stop_eq_ok_iff

theorem outcome_of_fits (hd : o.discoveryInterval.isZero = false)
    (hf : o.cacheFlushInterval.isZero = false) (actions : List Action)
    (hfits : o.Fits began ((start limits o began).1.run actions).1.now) :
    ((start limits o began).1.run actions).1.outcome = .ok () := by
  have hstart : (start limits o began).1.controller.Steady o began began :=
    Controller.steady_start limits
  have hsteady := steady_run (s := (start limits o began).1) hd hf hstart actions
  exact (outcome_eq_ok_iff _).mpr ((hsteady.begin hd hf).panics_eq_nil hfits)

/-- If a controller stops well whatever it does until then, the sums fit the clock. -/
theorem fits_of_outcome (hd : o.discoveryInterval.isZero = false)
    (hf : o.cacheFlushInterval.isZero = false) (hle : began ≤ now)
    (h : ∀ actions, ((start limits o began).1.run actions).1.now ≤ now →
      ((start limits o began).1.run actions).1.outcome = .ok ()) : o.Fits began now := by
  obtain ⟨d, rfl⟩ := Nat.exists_eq_add_of_le hle
  set first := (start limits o began).1
  have hwell : ∀ actions, (first.run actions).1.now ≤ began + d →
      ((first.run actions).1.controller.begin (first.run actions).1.now).discovery.panic? = none ∧
      ((first.run actions).1.controller.begin (first.run actions).1.now).flush.panic? = none := by
    intro actions hnow
    have hok := (outcome_eq_ok_iff _).mp (h actions hnow)
    obtain ⟨hdiscovery, hflush, -⟩ := (Controller.panics_eq_nil_iff _).mp hok
    exact ⟨hdiscovery, hflush⟩
  constructor
  · -- The flush task runs for the first time only now.
    by_contra hend
    have hnone : (first.controller.begin (began + d)).flush.panic? = none :=
      (hwell [.wait d] le_rfl).2
    have hspawned : (first.controller.beginDiscovery (began + d)).flush =
        .running (.spawned o.cacheFlushInterval) := first.controller.beginDiscovery_flush _
    have hpanicked : (first.controller.begin (began + d)).flush = .panicked .instantOverflow :=
      Controller.beginFlush_panics hspawned hf (Nat.not_lt.mp hend)
    rw [hpanicked] at hnone
    cases hnone
  · -- The discovery task runs at once, but takes its first tick only now.
    intro hlate
    by_contra hend
    have hnone : (((first.controller.beginDiscovery began).tickDiscovery (began + d)).begin
        (began + d)).discovery.panic? = none :=
      (hwell [.beginDiscovery, .wait d, .tickDiscovery] le_rfl).1
    have hrest : (first.controller.beginDiscovery began).discovery =
        .running (.resting ⟨began, o.discoveryInterval⟩) :=
      Controller.beginDiscovery_rests rfl hd
    have hticked := Controller.tickDiscovery_panics hrest hlate (Nat.not_lt.mp hend)
    rw [Controller.begin_discovery_of_panicked hticked] at hnone
    cases hnone

/-- A flush interval that does not fit the clock makes the flush task panic. -/
theorem outcome_start (hd : o.discoveryInterval.isZero = false)
    (hf : o.cacheFlushInterval.isZero = false)
    (hend : Ticker.endOfTime ≤ began + o.cacheFlushInterval.nanos) :
    (start limits o began).1.outcome = .error (StopFault.ofPanics 1) := by
  set first := (start limits o began).1.controller
  have hdiscovery : (first.begin began).discovery =
      .running (.resting ⟨began, o.discoveryInterval⟩) := by
    rw [Controller.begin, Controller.beginFlush_discovery]
    exact Controller.beginDiscovery_rests rfl hd
  have hflush : (first.begin began).flush = .panicked .instantOverflow :=
    Controller.beginFlush_panics (first.beginDiscovery_flush began) hf hend
  have hworkers : (first.begin began).relist.workers.filterMap Task.panic? = [] := by
    have hstart : first.Steady o began began := Controller.steady_start limits
    exact List.filterMap_eq_nil_iff.mpr (hstart.begin hd hf).workers
  have hpanics : (first.begin began).panics = [.instantOverflow] := by
    rw [Controller.panics, hdiscovery, hflush, hworkers]
    rfl
  show (first.begin began).stop.2.1 = _
  unfold Controller.stop
  rw [hpanics]
  rfl

end ControllerRun

/-! ### Waits for a token -/

/-- The whole nanoseconds nearest to a number of seconds, for a number that is not negative. -/
def nanosNear? (x : Float) : Option Nat :=
  if x < 0 || !Decimal.isFinite x then none
  else
    let b := Decimal.Binary.ofFloat x
    let (num, den) := Decimal.scaled (b.mantissa * nanosPerSecond) b.exponent
    some (Decimal.nearestEven num den)

theorem doubleToSpan?_eq (x : Float) : doubleToSpan? x = (nanosNear? x).bind Span.ofNanos? := by
  unfold doubleToSpan? nanosNear?
  by_cases hx : (x < 0 || !Decimal.isFinite x) = true
  · rw [if_pos hx, if_pos hx]
    rfl
  · rw [if_neg hx, if_neg hx]
    extract_lets b
    -- The fraction is named before it is compared: it must not be worked out.
    generalize Decimal.scaled (b.mantissa * nanosPerSecond) b.exponent = p
    obtain ⟨num, den⟩ := p
    rfl

theorem Bucket.waitFor_double (b : Bucket Float) (rate : Float) :
    b.waitFor rate =
      ((nanosNear? (mostDouble (1 - b.tokens) 0 / rate)).map Span.ofNanos).getD Span.longest := by
  show (doubleToSpan? (mostDouble (1 - b.tokens) 0 / rate)).getD Span.longest = _
  rw [doubleToSpan?_eq]
  cases nanosNear? (mostDouble (1 - b.tokens) 0 / rate) with
  | none => rfl
  | some n => rfl

/-! ### Accepted configurations -/

theorem Flags.intervals_of_resolve {f : Flags} {c : Configuration} (h : f.resolve = .ok c) :
    c.discoveryInterval = f.discoveryInterval ∧ c.cacheFlushInterval = f.cacheFlushInterval :=
  ⟨(reflects_of_resolve h).discoveryInterval, (reflects_of_resolve h).cacheFlushInterval⟩

theorem Flags.isZero_of_resolve {f : Flags} {c : Configuration} (h : f.resolve = .ok c) :
    c.discoveryInterval.isZero = false ∧ c.cacheFlushInterval.isZero = false := by
  obtain ⟨hd, hf⟩ := Flags.intervals_of_resolve h
  have hdiscovery : Condition.span .discoveryInterval (·.discoveryInterval) ∈ Condition.all := by
    simp [Condition.all]
  have hflush : Condition.span .cacheFlushInterval (·.cacheFlushInterval) ∈ Condition.all := by
    simp [Condition.all]
  have hdpos : 0 < f.discoveryInterval.nanos := holds_of_resolve h hdiscovery
  have hfpos : 0 < f.cacheFlushInterval.nanos := holds_of_resolve h hflush
  rw [hd, hf]
  exact ⟨beq_false_of_ne hdpos.ne', beq_false_of_ne hfpos.ne'⟩

namespace ControllerRun

variable {α : Type} [TokenArithmetic α]

/-- A hundred years. -/
def century : Nat := 36500 * 86400 * nanosPerSecond

/-- Whatever a controller with an accepted configuration does until an instant, it stops well,
exactly when the sums fit the clock. A wait for a token is cut off at the longest span. -/
theorem stops_ok_iff {f : Flags} {c : Configuration} (h : f.resolve = .ok c)
    (limits : RateLimit → Limits α) {began now : Instant} (hle : began ≤ now) :
    ((∀ actions, ((start limits c.controllerOptions began).1.run actions).1.now ≤ now →
        ((start limits c.controllerOptions began).1.run actions).1.outcome = .ok ()) ↔
      c.controllerOptions.Fits began now) ∧
    ∀ b : Bucket Float, b.waitFor c.clientRate.limits.rate =
      ((nanosNear? (mostDouble (1 - b.tokens) 0 / c.clientRate.qps)).map Span.ofNanos).getD
        Span.longest := by
  obtain ⟨hd, hf⟩ := Flags.isZero_of_resolve h
  refine ⟨⟨fits_of_outcome hd hf hle, ?_⟩, fun b => b.waitFor_double c.clientRate.qps⟩
  intro hfits actions hnow
  exact outcome_of_fits hd hf actions (hfits.mono hnow)

/-- With the defaults a controller stops well at any time within a century. -/
theorem stops_within_century :
    ∃ c, Flags.default.resolve = .ok c ∧ 0 ≤ century ∧ ∀ actions,
      ((start RateLimit.limits c.controllerOptions 0).1.run actions).1.now ≤ century →
        ((start RateLimit.limits c.controllerOptions 0).1.run actions).1.outcome = .ok () := by
  obtain ⟨c, hresolve⟩ :=
    Flags.exists_resolve (List.isEmpty_iff.mp (by decide +kernel) : Flags.default.violations = [])
  obtain ⟨hd, hf⟩ := Flags.intervals_of_resolve hresolve
  have hle : 0 ≤ century := Nat.zero_le _
  refine ⟨c, hresolve, hle, (stops_ok_iff hresolve RateLimit.limits hle).1.mpr ⟨?_, ?_⟩⟩
  · show century + c.cacheFlushInterval.nanos < Ticker.endOfTime
    rw [hf]
    decide +kernel
  · intro _
    show century + c.discoveryInterval.nanos < Ticker.endOfTime
    rw [hd]
    decide +kernel

/-- The defaults, but for an interval of as many seconds between flushes as can be given. -/
def endless : Flags := { Flags.default with cacheFlushInterval := Span.ofSeconds (UInt64.size - 1) }

/-- These flags are accepted, and the flush task panics as it begins. -/
theorem panic_of_endless_interval :
    ∃ c, endless.resolve = .ok c ∧
      (start RateLimit.limits c.controllerOptions 0).1.outcome =
        .error (StopFault.ofPanics 1) := by
  obtain ⟨c, hresolve⟩ :=
    Flags.exists_resolve (List.isEmpty_iff.mp (by decide +kernel) : endless.violations = [])
  obtain ⟨-, hlong⟩ := Flags.intervals_of_resolve hresolve
  obtain ⟨hd, hf⟩ := Flags.isZero_of_resolve hresolve
  have hend : Ticker.endOfTime ≤ 0 + endless.cacheFlushInterval.nanos := by decide +kernel
  rw [← hlong] at hend
  exact ⟨c, hresolve, outcome_start hd hf hend⟩

end ControllerRun

end ClusterAgent
