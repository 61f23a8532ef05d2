/-
The controller: three kinds of tasks that run until they are stopped.

One task discovers at intervals what the control plane serves; one begins a
generation of the object caches at intervals; and workers pick up generations.

* `Controller.start` — all tasks are spawned;
* `Controller.beginDiscovery`, `Controller.beginFlush` — a task runs for the first time;
* `Controller.tickDiscovery`, `Controller.conclude` — a discovery begins and ends;
* `Controller.tickFlush` — a generation begins;
* `Controller.shutDown` — all tasks end, and those that panicked are told of;
* `Controller.beginDiscovery_eq`, `Controller.beginFlush_eq` — a first run is nothing to the
  other tasks.

Design notes: a task that was spawned works out its first tick only when it runs, so
that tick is a period away from an instant that may lie well after the start.
Discovery takes a rest between its inquiries, and the inquiry that is under way is
a plan.  A failed discovery is warned of as often as the limit for events allows.
-/
import ClusterAgent.Agent.Fault
import ClusterAgent.Controller.Relist
import ClusterAgent.Discovery.Run
import ClusterAgent.Rate.Correlator

namespace ClusterAgent

/-- How a discovery ended. -/
abbrev Refresh := Except ClientFault (List ServedGroup)

/-- What the discovery task is at. -/
inductive Refresher where
  /-- It did not run yet, and knows its period only. -/
  | spawned (period : Span)
  | resting (ticker : Ticker)
  | inquiring (ticker : Ticker) (plan : Plan Refresh)

/-- What the flush task is at. -/
inductive Flusher where
  /-- It did not run yet, and knows its period only. -/
  | spawned (period : Span)
  | ticking (ticker : Ticker)

/-- The tasks of a controller. -/
structure Controller (α : Type) where
  discovery : Task Refresher
  correlator : Correlator α
  flush : Task Flusher
  relist : Relist

/-- The catalog after a discovery: a failed one leaves it as it was. -/
def Catalog.refreshed (c : Catalog) : Refresh → Catalog
  | .ok groups => c.replace (Discovery.kinds groups)
  | .error _ => c

namespace Controller

variable {α : Type} [TokenArithmetic α]

/-- What failed discoveries are limited as. -/
def discoveryObject : String := "discovery"

/-- All tasks are spawned. -/
def start (limits : RateLimit → Limits α) (o : ControllerOptions) : Controller α × List Notice :=
  ({ discovery := .running (.spawned o.discoveryInterval)
     correlator := Correlator.new (limits o.events)
     flush := .running (.spawned o.cacheFlushInterval)
     relist := Relist.start o.workers },
    [.logged (.runtimeStarted o.workers o.discoveryInterval o.cacheFlushInterval)])

/-- The discovery task runs for the first time. -/
def beginDiscovery (r : Controller α) (now : Instant) : Controller α :=
  match r.discovery with
  | .running (.spawned period) =>
    { r with discovery := Task.begin ((Ticker.starting now period).map .resting) }
  | _ => r

/-- The flush task runs for the first time. -/
def beginFlush (r : Controller α) (now : Instant) : Controller α :=
  match r.flush with
  | .running (.spawned period) =>
    match Ticker.after now period with
    | .ok ticker => { r with flush := .running (.ticking ticker) }
    | .error cause => { r with flush := .panicked cause, relist := r.relist.close }
  | _ => r

/-- The tasks that did not run yet do so. -/
def begin (r : Controller α) (now : Instant) : Controller α :=
  (r.beginDiscovery now).beginFlush now

/-- The ticker of a discovery task that rests. -/
def resting? (r : Controller α) : Option Ticker :=
  match r.discovery with
  | .running (.resting ticker) => some ticker
  | _ => none

/-- The inquiry that is under way. -/
def inquiry? (r : Controller α) : Option (Ticker × Plan Refresh) :=
  match r.discovery with
  | .running (.inquiring ticker plan) => some (ticker, plan)
  | _ => none

/-- A discovery begins if its tick is due. -/
def tickDiscovery (r : Controller α) (now : Instant) : Controller α :=
  match r.resting? with
  | some ticker =>
    if ticker.isDue now then
      { r with discovery := Task.begin ((ticker.tick now).map (.inquiring · Discovery.run.run)) }
    else r
  | none => r

/-- The inquiry goes on with another plan. -/
def proceed (r : Controller α) (plan : Plan Refresh) : Controller α :=
  match r.inquiry? with
  | some (ticker, _) => { r with discovery := .running (.inquiring ticker plan) }
  | none => r

/-- What a discovery that ended gives rise to. -/
def report (c : Correlator α) (now : Instant) : Refresh → Correlator α × List Notice
  | .ok groups =>
    let count := (Discovery.kinds groups).length
    (c, [.measured (.discovery true (some count)), .logged (.discoveryRefreshed count)])
  | .error fault =>
    let (allowed, c, ns) := c.allow discoveryObject now
    let warning : List Notice := if allowed then [.logged (.discoveryFailed fault.message)] else []
    (c, .measured (.discovery false none) :: ns ++ warning)

/-- An inquiry that is done ends. -/
def conclude (r : Controller α) (catalog : Catalog) (now : Instant) :
    Controller α × Catalog × List Notice :=
  match r.inquiry? with
  | some (ticker, .done refresh) =>
    let (correlator, ns) := report r.correlator now refresh
    ({ r with discovery := .running (.resting ticker), correlator }, catalog.refreshed refresh, ns)
  | _ => (r, catalog, [])

/-- A generation begins if its tick is due. -/
def tickFlush (r : Controller α) (now : Instant) : Controller α × List Notice :=
  match r.flush with
  | .running (.ticking ticker) =>
    if ticker.isDue now then
      match ticker.tick now with
      | .ok ticker =>
        let (relist, ns) := r.relist.flush
        ({ r with flush := .running (.ticking ticker), relist }, ns)
      | .error cause => ({ r with flush := .panicked cause, relist := r.relist.close }, [])
    else (r, [])
  | _ => (r, [])

/-- The panics of all tasks. -/
def panics (r : Controller α) : List TaskPanic :=
  r.discovery.panic?.toList ++ r.flush.panic?.toList ++ r.relist.workers.filterMap Task.panic?

/-- The log entry of a panic. -/
def panicEvent (p : TaskPanic) : LogEvent :=
  .taskPanicked ("task N panicked with message " ++ Text.quote p.message)

/-- All tasks end, each of which ran before. -/
def stop (r : Controller α) : Controller α × Except StopFault Unit × List Notice :=
  let exits := (if r.discovery.isRunning then [LogEvent.discoveryExiting] else []) ++
    (if r.flush.isRunning then [LogEvent.flushExiting] else [])
  let events := exits ++ r.panics.map panicEvent ++ [.runtimeStopped]
  let outcome := if r.panics.isEmpty then .ok () else .error (StopFault.ofPanics r.panics.length)
  ({ r with discovery := r.discovery.stop, flush := r.flush.stop, relist := r.relist.stop },
    outcome, events.map .logged)

/-- The tasks are called off: those that did not run yet do so, and then all of them end. -/
def shutDown (r : Controller α) (now : Instant) :
    Controller α × Except StopFault Unit × List Notice := (r.begin now).stop

omit [TokenArithmetic α] in
theorem beginDiscovery_eq (r : Controller α) (now : Instant) :
    r.beginDiscovery now = { r with discovery := (r.beginDiscovery now).discovery } := by
  unfold beginDiscovery
  split <;> rfl

omit [TokenArithmetic α] in
theorem beginFlush_eq (r : Controller α) (now : Instant) :
    r.beginFlush now = { r with
      flush := (r.beginFlush now).flush
      relist := (r.beginFlush now).relist } := by
  unfold beginFlush
  split
  · split <;> rfl
  · rfl

end Controller

end ClusterAgent
