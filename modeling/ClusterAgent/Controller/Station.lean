/-
Controllers side by side.

Controllers that are started from one client share its limiter and one catalog.
Here the control plane answers every request at once, and tasks run as soon as they
are spawned, so a controller only ever waits for a tick or for a token.

* `Station.launch`, `Station.stop` — a controller begins and ends;
* `Station.settle` — everything that is due at a millisecond;
* `Station.advance` — let time pass.
-/
import ClusterAgent.Client.Connection
import ClusterAgent.Controller.Tasks
import ClusterAgent.Discovery.Exchange

namespace ClusterAgent

/-- Controllers, each under the number by which it was started. -/
structure Station (α : Type) where
  layer : RequestLayer α
  catalog : Catalog
  controllers : List (Controller α)

namespace Station

variable {α : Type} [TokenArithmetic α]

/-- No controller was started. -/
def new (limiter : Limiter α) : Station α := ⟨RequestLayer.new limiter, Catalog.empty, []⟩

/-- The notices among what is seen of requests. -/
def noticesOf (events : List RequestEvent) : List Notice := events.filterMap RequestEvent.notice?

/-- Put a controller in its place. -/
def put (s : Station α) (k : Nat) (r : Controller α) : Station α :=
  { s with controllers := s.controllers.set k r }

/-- Carry on the inquiry of a controller, and end it if it is done. -/
def inquire (answer : String → Fetched) (now : Instant) (k : Nat) (r : Controller α) (asked : Bool)
    (s : Station α) : Station α × List Notice :=
  match r.inquiry? with
  | some (_, plan) =>
    let (layer, events, plan) := plan.attend answer k now asked s.layer
    let (r, catalog, ns) := (r.proceed plan).conclude s.catalog now
    ({ s with layer, catalog }.put k r, noticesOf events ++ ns)
  | none => (s.put k r, [])

/-- The discoveries of a controller that are due, at most that many. -/
def discover (answer : String → Fetched) (now : Instant) (k : Nat) :
    Nat → Station α → Station α × List Notice
  | 0, s => (s, [])
  | fuel + 1, s =>
    match s.controllers[k]? with
    | none => (s, [])
    | some r =>
      let began := r.tickDiscovery now
      let asked := s.layer.sent.any (·.1.id == k)
      if r.inquiry?.isSome && !asked || r.inquiry?.isNone && began.inquiry?.isNone then
        (s.put k began, [])
      else
        let (s, ns) := inquire answer now k began asked s
        let (s, more) := discover answer now k fuel s
        (s, ns ++ more)

/-- The flushes of a controller that are due, at most that many. -/
def flushes (now : Instant) : Nat → Controller α → Controller α × List Notice
  | 0, r => (r, [])
  | fuel + 1, r =>
    match r.flush with
    | .running (.ticking ticker) =>
      if ticker.isDue now then
        let (r, ns) := r.tickFlush now
        let (r, more) := flushes now fuel r
        (r, ns ++ more)
      else (r, [])
    | _ => (r, [])

/-- How many discoveries of a controller could be due. -/
def discoveryBacklog (r : Controller α) (now : Instant) : Nat :=
  match r.resting?, r.inquiry? with
  | some ticker, _ | none, some (ticker, _) => ticker.backlog now + 1
  | none, none => 1

/-- How many flushes of a controller could be due. -/
def flushBacklog (r : Controller α) (now : Instant) : Nat :=
  match r.flush with
  | .running (.ticking ticker) => ticker.backlog now
  | _ => 0

/-- Everything that a controller has to do. -/
def work (answer : String → Fetched) (now : Instant) (k : Nat) (s : Station α) :
    Station α × List Notice :=
  match s.controllers[k]? with
  | none => (s, [])
  | some r =>
    let (s, discovered) := discover answer now k (discoveryBacklog r now) s
    match s.controllers[k]? with
    | none => (s, discovered)
    | some r =>
      let (r, flushed) := flushes now (flushBacklog r now) r
      let (relist, picked) := r.relist.wakeAll s.catalog.size
      (s.put k { r with relist }, discovered ++ flushed ++ picked)

/-- Everything that is due at a millisecond. -/
def settle (answer : String → Fetched) (ms : Nat) (s : Station α) : Station α × List Notice :=
  let now := Clock.instantOf ms
  let (layer, dispatched) := (s.layer.wake ms).dispatch now
  (List.range s.controllers.length).foldl
    (fun (s, ns) k =>
      let (s, more) := work answer now k s
      (s, ns ++ more)) ({ s with layer }, noticesOf dispatched)

/-- The millisecond at which a ticker is due. -/
def dueAt (t : Ticker) : Nat := Clock.milliAt t.due

/-- The next time that a controller has something to do. -/
def nextOf (r : Controller α) : Option Nat :=
  let flush := match r.flush with
    | .running (.ticking ticker) => some (dueAt ticker)
    | _ => none
  Clock.earlier (r.resting?.map dueAt) flush

/-- The next time that there is something to do. -/
def next (s : Station α) : Option Nat :=
  Clock.earliest (s.layer.limiter.nextWake :: s.controllers.map nextOf)

/-- A controller begins, and does what it can. -/
def start (answer : String → Fetched) (limits : RateLimit → Limits α) (o : ControllerOptions)
    (ms : Nat) (s : Station α) : Station α × List Notice :=
  let (r, began) := Controller.start limits o
  let r := r.begin (Clock.instantOf ms)
  let (s, ns) := settle answer ms { s with controllers := s.controllers ++ [r] }
  (s, began ++ ns)

/-- A controller begins if a connection to the cluster can be made. -/
def launch (env : Environment) (access : ClusterAccess) (answer : String → Fetched)
    (limits : RateLimit → Limits α) (o : ControllerOptions) (ms : Nat) (s : Station α) :
    Station α × Except StartFault Unit × List Notice :=
  match access.connect env with
  | .error fault => (s, .error (.client fault), [])
  | .ok _ =>
    let (s, ns) := s.start answer limits o ms
    (s, .ok (), ns)

/-- A controller ends. -/
def stop (ms k : Nat) (s : Station α) : Station α × Except StopFault Unit × List Notice :=
  match s.controllers[k]? with
  | some r =>
    let (r, outcome, ns) := r.shutDown (Clock.instantOf ms)
    ({ s with layer := s.layer.cancel k }.put k r, outcome, ns)
  | none => (s, .ok (), [])

/-- Take a token of the limiter that the controllers share. -/
def tryAcquire (ms : Nat) (s : Station α) : Bool × Station α :=
  let (got, limiter) := s.layer.limiter.tryAcquire (Clock.instantOf ms)
  (got, { s with layer := { s.layer with limiter } })

/-- Let time pass. -/
def advance (answer : String → Fetched) (now target : Nat) (s : Station α) :
    Station α × List Notice :=
  Clock.pass next (settle answer) now target s

end Station

end ClusterAgent
