/-
A controller, one wait at a time.

Each wait of each task is a point at which anything else may happen.  A worker is told
that there is a newer generation, and reads which one it is later.  A discovery draws a
token for each request, waits for its service and then for the answer.  To stop a
controller is to call its tasks off and to join them, and each one heeds the call when it
comes round to it.

* `Bulletin`, `Worker` — how generations are published, and what a worker knows;
* `Relisting.step` — the flush task and the workers;
* `Refreshing.step` — the discovery task and its requests;
* `Crew.step`, `Crew.run` — all tasks, those who stop them, time, and others who share the
  limiter, the services and the catalog.

Design notes: a `Controller` does several of these things in one go, and `Station`s have
its tasks take turns in one order.  Others may do to what is shared all that leaves the
requests of this controller where they are.  What cannot be done does nothing, so any
sequence of actions is a run.
-/
import ClusterAgent.Controller.Tasks
import ClusterAgent.Discovery.Exchange

namespace ClusterAgent

/-! ### Relists -/

/-- What is published to the workers: a generation, under a version that goes up whenever it is
published, until nobody is left to publish any. -/
structure Bulletin where
  generation : Nat
  version : Nat
  closed : Bool
deriving DecidableEq

namespace Bulletin

/-- What is published from the start, which is no news. -/
def new : Bulletin := ⟨0, 0, false⟩

/-- Publish the next generation. -/
def renew (b : Bulletin) : Bulletin :=
  { b with generation := b.generation + 1, version := b.version + 1 }

/-- Nobody is left to publish. -/
def close (b : Bulletin) : Bulletin := { b with closed := true }

end Bulletin

/-- What a worker is at, with the version that it saw last. -/
inductive Worker where
  /-- It waits for news. -/
  | parked (seen : Nat)
  /-- It was told that there are news, and did not read them yet. -/
  | told (seen : Nat)
deriving DecidableEq

namespace Worker

/-- A worker that waits looks for news. -/
def look (b : Bulletin) : Worker → Task Worker
  | parked seen =>
    if seen ≠ b.version then .running (told b.version)
    else if b.closed then .ended else .running (parked seen)
  | told seen => .running (told seen)

/-- A worker that was told of news reads what is published by now. -/
def read (b : Bulletin) (resources id : Nat) : Worker → Task Worker × List Notice
  | parked seen => (.running (parked seen), [])
  | told _ =>
    (.running (parked b.version), [.logged (.relistPickedUp id b.generation resources)])

/-- A worker that waits gives up; one that was told reads first. -/
def leave : Worker → Task Worker
  | parked _ => .ended
  | told seen => .running (told seen)

end Worker

/-- The flush task and the workers. -/
structure Relisting where
  flush : Task Flusher
  bulletin : Bulletin
  workers : List (Task Worker)

namespace Relisting

/-- One thing that one of these tasks does. -/
inductive Action where
  /-- The flush task runs for the first time. -/
  | begin
  /-- The flush task looks whether its tick is due. -/
  | tick
  /-- The flush task looks whether it was called off. -/
  | heed
  /-- A worker looks for news. -/
  | look (worker : Nat)
  /-- A worker that was told of news reads them. -/
  | read (worker : Nat)
  /-- A worker looks whether it was called off. -/
  | leave (worker : Nat)

/-- All these tasks are spawned. -/
def start (o : ControllerOptions) : Relisting :=
  ⟨.running (.spawned o.cacheFlushInterval), Bulletin.new,
    List.replicate o.workers (.running (.parked 0))⟩

/-- The flush task runs for the first time. -/
def begin (r : Relisting) (now : Instant) : Relisting :=
  match r.flush with
  | .running (.spawned period) =>
    match Ticker.after now period with
    | .ok ticker => { r with flush := .running (.ticking ticker) }
    | .error cause => { r with flush := .panicked cause, bulletin := r.bulletin.close }
  | _ => r

/-- A generation is published if the tick is due. -/
def tick (r : Relisting) (now : Instant) : Relisting × List Notice :=
  match r.flush with
  | .running (.ticking ticker) =>
    if ticker.isDue now then
      match ticker.tick now with
      | .ok ticker =>
        let bulletin := r.bulletin.renew
        ({ r with flush := .running (.ticking ticker), bulletin },
          [.measured .cacheFlush, .logged (.flushing bulletin.generation)])
      | .error cause =>
        ({ r with flush := .panicked cause, bulletin := r.bulletin.close }, [])
    else (r, [])
  | _ => (r, [])

/-- The flush task ends, and nobody is left to publish. -/
def heed (r : Relisting) : Relisting × List Notice :=
  match r.flush with
  | .running (.ticking _) =>
    ({ r with flush := .ended, bulletin := r.bulletin.close }, [.logged .flushExiting])
  | _ => (r, [])

/-- A worker goes on, if it runs. -/
def move (r : Relisting) (k : Nat) (f : Worker → Task Worker × List Notice) :
    Relisting × List Notice :=
  match r.workers[k]? with
  | some (.running w) =>
    let (task, ns) := f w
    ({ r with workers := r.workers.set k task }, ns)
  | _ => (r, [])

/-- One thing happens. -/
def step (r : Relisting) (now : Instant) (resources : Nat) (calledOff : Bool) :
    Action → Relisting × List Notice
  | .begin => (r.begin now, [])
  | .tick => r.tick now
  | .heed => if calledOff then r.heed else (r, [])
  | .look k => r.move k fun w => (w.look r.bulletin, [])
  | .read k => r.move k (Worker.read r.bulletin resources k)
  | .leave k => if calledOff then r.move k fun w => (w.leave, []) else (r, [])

end Relisting

/-! ### Refreshes -/

/-- What is left of a request in the request layer. -/
structure Traces where
  waiters : List Waiter
  drawing : List Call
  queued : List (Call × Instant)
  sent : List (Call × Instant)
deriving DecidableEq

/-- What is left of the requests under a number. -/
def RequestLayer.traces {α : Type} (l : RequestLayer α) (id : RequestId) : Traces where
  waiters := l.limiter.waiters.filter (·.id == id)
  drawing := l.drawing.filter (·.id == id)
  queued := l.queued.filter (·.1.id == id)
  sent := l.sent.filter (·.1.id == id)

/-- What is seen of a controller from outside, and each token that it draws. -/
inductive CrewEvent where
  | drew
  | seen (e : RequestEvent)

/-- What a task has to say. -/
def CrewEvent.say (n : Notice) : CrewEvent := .seen (.notice n)

/-- What the discovery task is at. -/
inductive Errand where
  /-- It did not run yet, and knows its period only. -/
  | spawned (period : Span)
  | resting (ticker : Ticker)
  /-- An inquiry is under way; `asked` tells whether its next request is. -/
  | inquiring (ticker : Ticker) (plan : Plan Refresh) (asked : Bool)

/-- The discovery task, and what it shares with others: its requests bear its number. -/
structure Refreshing (α : Type) where
  id : RequestId
  layer : RequestLayer α
  catalog : Catalog
  correlator : Correlator α
  task : Task Errand

namespace Refreshing

/-- One thing that the discovery task does, or that happens to its request. -/
inductive Action where
  /-- The task runs for the first time. -/
  | begin
  /-- The task looks whether its tick is due. -/
  | tick
  /-- The next request is sent: it draws a token or waits for one. -/
  | send
  /-- The request tries again to draw a token. -/
  | retry
  /-- The request looks whether its service takes it. -/
  | handOver
  /-- The request is answered. -/
  | answer (fetched : Fetched)
  /-- The task looks whether the inquiry is done. -/
  | conclude
  /-- The task looks whether it was called off. -/
  | heed

variable {α : Type} [TokenArithmetic α]

/-- The task is spawned. -/
def start (id : RequestId) (layer : RequestLayer α) (limits : RateLimit → Limits α)
    (o : ControllerOptions) : Refreshing α :=
  ⟨id, layer, Catalog.empty, Correlator.new (limits o.events),
    .running (.spawned o.discoveryInterval)⟩

/-- How the inquiry goes on once its request is answered. -/
def awaiting? (r : Refreshing α) : Option (Fetched → Task Errand) :=
  match r.task with
  | .running (.inquiring ticker (.ask _ resume) true) =>
    some fun fetched => .running (.inquiring ticker (resume fetched) false)
  | _ => none

/-- The task runs for the first time. -/
def begin (r : Refreshing α) (now : Instant) : Refreshing α :=
  match r.task with
  | .running (.spawned period) =>
    { r with task := Task.begin ((Ticker.starting now period).map .resting) }
  | _ => r

/-- An inquiry begins if the tick is due. -/
def tick (r : Refreshing α) (now : Instant) : Refreshing α :=
  match r.task with
  | .running (.resting ticker) =>
    if ticker.isDue now then
      { r with task := Task.begin ((ticker.tick now).map (.inquiring · Discovery.run.run false)) }
    else r
  | _ => r

/-- The next request is sent. -/
def send (r : Refreshing α) (now : Instant) : Refreshing α × List CrewEvent :=
  match r.task with
  | .running (.inquiring ticker (.ask path resume) false) =>
    let granted := (r.layer.limiter.acquire r.id now).1
    let (layer, es) := r.layer.send (Call.onBehalf r.id path) now
    ({ r with layer, task := .running (.inquiring ticker (.ask path resume) true) },
      (if granted then [.drew] else []) ++ es.map .seen)
  | _ => (r, [])

/-- The request tries again to draw a token, if it waits for one. -/
def retry (r : Refreshing α) (now : Instant) : Refreshing α × List CrewEvent :=
  if r.awaiting?.isSome && r.layer.drawing.any (·.id == r.id) then
    let (limiter, granted) := Limiter.retryAll now [r.id] r.layer.limiter
    ({ r with layer := { r.layer with limiter }.drawn granted now }, granted.map fun _ => .drew)
  else (r, [])

/-- The request is handed over if its service is ready, and fails if the service does. -/
def handOver (r : Refreshing α) (now : Instant) : Refreshing α × List CrewEvent :=
  match r.awaiting?, r.layer.queued.find? (·.1.id == r.id) with
  | some resume, some (c, since) =>
    let queued := r.layer.queued.filter (·.1.id != r.id)
    match r.layer.readiness c.service with
    | .pending => (r, [])
    | .ready =>
      ({ r with layer := { r.layer with queued, sent := r.layer.sent ++ [(c, since)] } },
        [.seen (.reached c)])
    | .failing cause =>
      ({ r with layer := { r.layer with queued }, task := resume (.failure cause) },
        (RequestLayer.accounted c since now (.failure cause)).map .seen)
  | _, _ => (r, [])

/-- The request is answered, if it was handed over. -/
def answer (r : Refreshing α) (now : Instant) (fetched : Fetched) : Refreshing α × List CrewEvent :=
  match r.awaiting? with
  | some resume =>
    if r.layer.sent.any (·.1.id == r.id) then
      let (layer, es) := r.layer.reply r.id fetched.reply now
      ({ r with layer, task := resume fetched }, es.map .seen)
    else (r, [])
  | none => (r, [])

/-- An inquiry that is done ends. -/
def conclude (r : Refreshing α) (now : Instant) : Refreshing α × List CrewEvent :=
  match r.task with
  | .running (.inquiring ticker (.done refresh) false) =>
    let (correlator, ns) := Controller.report r.correlator now refresh
    ({ r with
        task := .running (.resting ticker)
        correlator
        catalog := r.catalog.refreshed refresh },
      ns.map .say)
  | _ => (r, [])

/-- The task ends; if an inquiry is under way, it is dropped together with its request. -/
def heed (r : Refreshing α) : Refreshing α × List CrewEvent :=
  match r.task with
  | .running (.resting _) => ({ r with task := .ended }, [.say (.logged .discoveryExiting)])
  | .running (.inquiring ..) =>
    ({ r with task := .ended, layer := r.layer.cancel r.id }, [.say (.logged .discoveryExiting)])
  | _ => (r, [])

/-- One thing happens. -/
def step (r : Refreshing α) (now : Instant) (calledOff : Bool) :
    Action → Refreshing α × List CrewEvent
  | .begin => (r.begin now, [])
  | .tick => (r.tick now, [])
  | .send => r.send now
  | .retry => r.retry now
  | .handOver => r.handOver now
  | .answer fetched => r.answer now fetched
  | .conclude => r.conclude now
  | .heed => if calledOff then r.heed else (r, [])

end Refreshing

/-! ### All tasks together -/

/-- How a task is over: by a panic, or without; none if it is not. -/
def Task.fate? {σ : Type} : Task σ → Option (Option TaskPanic)
  | running _ => none
  | ended => some none
  | panicked cause => some (some cause)

/-- One of the tasks. -/
inductive Member where
  | discovery
  | flush
  | worker (id : Nat)
deriving DecidableEq

/-- All tasks of a controller with that many workers. -/
def Member.all (workers : Nat) : List Member :=
  discovery :: flush :: (List.range workers).map worker

/-- How far the stopping of a controller is. -/
inductive StopHandle where
  /-- Nobody has asked for it. -/
  | held
  /-- The tasks were called off; some are waited for, and some of the others panicked. -/
  | joining (waiting : List Member) (panicked : Nat)
  | returned (outcome : Except StopFault Unit)

/-- A controller with all of its tasks, and the time. -/
structure Crew (α : Type) where
  now : Instant
  refreshing : Refreshing α
  relisting : Relisting
  handle : StopHandle

namespace Crew

/-- One thing that happens. -/
inductive Action (α : Type) where
  | wait (nanos : Nat)
  /-- Others use what they share with this controller. -/
  | elsewhere (layer : RequestLayer α) (catalog : Catalog)
  | refresh (a : Refreshing.Action)
  | relist (a : Relisting.Action)
  /-- The tasks are called off. -/
  | stop
  /-- Whoever stops the controller looks whether a task is over. -/
  | join (m : Member)
  /-- Whoever stops the controller looks whether all tasks were joined. -/
  | finish

variable {α : Type} [TokenArithmetic α]

/-- All tasks are spawned, on behalf of a number, with a client of its own. -/
def start (id : RequestId) (limits : RateLimit → Limits α) (client : RateLimit)
    (o : ControllerOptions) (now : Instant) : Crew α × List CrewEvent :=
  ({ now
     refreshing :=
      Refreshing.start id (RequestLayer.new (Limiter.new (limits client) now)) limits o
     relisting := Relisting.start o
     handle := .held },
    [.say (.logged (.runtimeStarted o.workers o.discoveryInterval o.cacheFlushInterval))])

/-- Whether the tasks were called off. -/
def isCalledOff (s : Crew α) : Bool :=
  match s.handle with
  | .held => false
  | _ => true

/-- How a task is over, if it is. -/
def fate? (s : Crew α) : Member → Option (Option TaskPanic)
  | .discovery => s.refreshing.task.fate?
  | .flush => s.relisting.flush.fate?
  | .worker k => s.relisting.workers[k]?.bind Task.fate?

/-- Call the tasks off. -/
def stop (s : Crew α) : Crew α :=
  match s.handle with
  | .held => { s with handle := .joining (Member.all s.relisting.workers.length) 0 }
  | _ => s

/-- Join a task that is over, and tell of its panic. -/
def join (s : Crew α) (m : Member) : Crew α × List CrewEvent :=
  match s.handle with
  | .joining waiting panicked =>
    if m ∈ waiting then
      match s.fate? m with
      | none => (s, [])
      | some none => ({ s with handle := .joining (waiting.erase m) panicked }, [])
      | some (some cause) =>
        ({ s with handle := .joining (waiting.erase m) (panicked + 1) },
          [.say (.logged (Controller.panicEvent cause))])
    else (s, [])
  | _ => (s, [])

/-- How the controller stopped, if that many tasks panicked. -/
def verdict (panicked : Nat) : Except StopFault Unit :=
  if panicked = 0 then .ok () else .error (StopFault.ofPanics panicked)

/-- Tell how the controller stopped, if all tasks were joined. -/
def finish (s : Crew α) : Crew α × List CrewEvent :=
  match s.handle with
  | .joining [] panicked =>
    ({ s with handle := .returned (verdict panicked) }, [.say (.logged .runtimeStopped)])
  | _ => (s, [])

omit [TokenArithmetic α] in
theorem stop_eq (s : Crew α) : s.stop = { s with handle := s.stop.handle } := by
  unfold stop
  split <;> rfl

omit [TokenArithmetic α] in
theorem join_eq (s : Crew α) (m : Member) :
    (s.join m).1 = { s with handle := (s.join m).1.handle } := by
  unfold join
  split
  · split
    · split <;> rfl
    · rfl
  · rfl

omit [TokenArithmetic α] in
theorem finish_eq (s : Crew α) : s.finish.1 = { s with handle := s.finish.1.handle } := by
  unfold finish
  split <;> rfl

/-- One thing happens. -/
def step (s : Crew α) : Action α → Crew α × List CrewEvent
  | .wait nanos => ({ s with now := s.now + nanos }, [])
  | .elsewhere layer catalog =>
    if layer.traces s.refreshing.id = s.refreshing.layer.traces s.refreshing.id then
      ({ s with refreshing := { s.refreshing with layer, catalog } }, [])
    else (s, [])
  | .refresh a =>
    let (refreshing, es) := s.refreshing.step s.now s.isCalledOff a
    ({ s with refreshing }, es)
  | .relist a =>
    let (relisting, ns) := s.relisting.step s.now s.refreshing.catalog.size s.isCalledOff a
    ({ s with relisting }, ns.map .say)
  | .stop => (s.stop, [])
  | .join m => s.join m
  | .finish => s.finish

/-- Things happen one after the other. -/
def run (s : Crew α) : List (Action α) → Crew α × List CrewEvent
  | [] => (s, [])
  | a :: rest =>
    let (s, es) := s.step a
    let (s, more) := s.run rest
    (s, es ++ more)

theorem run_append (s : Crew α) (xs ys : List (Action α)) :
    s.run (xs ++ ys) =
      let front := s.run xs
      let back := front.1.run ys
      (back.1, front.2 ++ back.2) := by
  induction xs generalizing s with
  | nil => rfl
  | cons a xs ih => simp [run, ih]

/-- What is kept by everything that happens, with all that was seen so far, is kept by runs. -/
theorem run_induct {P : Crew α → List CrewEvent → Prop} {s : Crew α} {es : List CrewEvent}
    (start : P s es) (step : ∀ s es a, P s es → P (s.step a).1 (es ++ (s.step a).2))
    (actions : List (Action α)) : P (s.run actions).1 (es ++ (s.run actions).2) := by
  induction actions generalizing s es with
  | nil =>
    rw [run, List.append_nil]
    exact start
  | cons a rest ih =>
    have hrest := ih (step s es a start)
    rw [List.append_assoc] at hrest
    exact hrest

/-- What is kept by everything that happens is kept by runs. -/
theorem run_keeps {P : Crew α → Prop} {s : Crew α} (start : P s)
    (step : ∀ s a, P s → P (s.step a).1) (actions : List (Action α)) : P (s.run actions).1 := by
  induction actions generalizing s with
  | nil => exact start
  | cons a rest ih => exact ih (step s a start)

end Crew

/-- The notices among what is seen of a controller. -/
def CrewEvent.notice? : CrewEvent → Option Notice
  | .seen e => e.notice?
  | .drew => none

/-- The notices among what was seen, in order. -/
def CrewEvent.notices (es : List CrewEvent) : List Notice := es.filterMap notice?

end ClusterAgent
