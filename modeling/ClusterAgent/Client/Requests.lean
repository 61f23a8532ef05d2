/-
Requests on their way to the control plane.

A request first draws a token from the shared limiter.  Then it queues for its
service, which takes one request at a time and only while it is ready; once
dispatched, a request waits for its reply and holds up nobody.

* `RequestLayer.send`, `RequestLayer.wake` — draw a token, now or when a timer ran
  off;
* `RequestLayer.dispatch` — hand over everything whose service is ready;
* `RequestLayer.reply` — a reply arrives;
* `RequestLayer.cancel` — a request is dropped wherever it is.

A request is counted once, when it ends: by its status, or as an error if there
was no response.  Its duration runs from the token on.

Design notes: the queue of a service and the lock on it are one thing, the list
of requests that drew a token and were not dispatched.  A service that is not
ready keeps its queue; one that fails its readiness check fails the whole queue.
-/
import ClusterAgent.Rate.Limiter

namespace ClusterAgent

/-- Whether a service can take a request. -/
inductive Readiness where
  | ready
  | pending
  | failing (cause : String)
deriving DecidableEq

/-- A request to a service. -/
structure Call where
  id : RequestId
  method : String
  path : String
  service : Nat
deriving DecidableEq

/-- How a request ends. -/
inductive Reply where
  | status (code : Nat)
  | failure (cause : String)
deriving DecidableEq

/-- The status of a reply. -/
def Reply.status? : Reply → Option Nat
  | .status code => some code
  | .failure _ => none

/-- What is seen of the requests from outside. -/
inductive RequestEvent where
  /-- A request reaches its service. -/
  | reached (call : Call)
  | finished (call : Call) (reply : Reply)
  | notice (n : Notice)

/-- The notices among what is seen. -/
def RequestEvent.notice? : RequestEvent → Option Notice
  | .notice n => some n
  | _ => none

/-- The requests on their way, by how far they are. -/
structure RequestLayer (α : Type) where
  limiter : Limiter α
  readiness : Nat → Readiness
  /-- Waiting for a token. -/
  drawing : List Call
  /-- With a token since the instant given; waiting for their service in this order. -/
  queued : List (Call × Instant)
  /-- Dispatched, and waiting for the reply. -/
  sent : List (Call × Instant)

namespace RequestLayer

variable {α : Type} [TokenArithmetic α]

/-- No request is on its way, and every service is ready. -/
def new (limiter : Limiter α) : RequestLayer α := ⟨limiter, fun _ => .ready, [], [], []⟩

/-- The record of a request that ends. -/
def accounted (c : Call) (since now : Instant) (r : Reply) : List RequestEvent :=
  [.notice (.measured (.clientRequest c.method r.status? (Span.between since now))), .finished c r]

/-- Send a request: it draws a token or waits for one. -/
def send (l : RequestLayer α) (c : Call) (now : Instant) : RequestLayer α × List RequestEvent :=
  let (got, limiter, ns) := l.limiter.acquire c.id now
  let l := { l with limiter }
  if got then ({ l with queued := l.queued ++ [(c, now)] }, ns.map .notice)
  else ({ l with drawing := l.drawing ++ [c] }, ns.map .notice)

/-- Requests that got their token go to the end of the queue. -/
def drawn (l : RequestLayer α) (ids : List RequestId) (now : Instant) : RequestLayer α :=
  { l with
    drawing := l.drawing.filter fun c => !ids.contains c.id
    queued := l.queued ++ (l.drawing.filter fun c => ids.contains c.id).map (·, now) }

/-- Waiting requests whose timers ran off draw again. -/
def wake (l : RequestLayer α) (ms : Nat) : RequestLayer α :=
  let (limiter, ids) := l.limiter.settle ms
  { l with limiter }.drawn ids (Clock.instantOf ms)

/-- Go through the queue once: a request whose service is ready is handed over,
one whose service fails its check ends with that failure, the others stay. -/
def dispatchAll (readiness : Nat → Readiness) (now : Instant) :
    List (Call × Instant) → List (Call × Instant) × List (Call × Instant) × List RequestEvent
  | [] => ([], [], [])
  | (c, since) :: rest =>
    let (queued, sent, events) := dispatchAll readiness now rest
    match readiness c.service with
    | .ready => (queued, (c, since) :: sent, .reached c :: events)
    | .failing cause => (queued, sent, accounted c since now (.failure cause) ++ events)
    | .pending => ((c, since) :: queued, sent, events)

/-- Hand over everything whose service is ready. -/
def dispatch (l : RequestLayer α) (now : Instant) : RequestLayer α × List RequestEvent :=
  let (queued, sent, events) := dispatchAll l.readiness now l.queued
  ({ l with queued, sent := l.sent ++ sent }, events)

/-- A reply arrives for a dispatched request. -/
def reply (l : RequestLayer α) (id : RequestId) (r : Reply) (now : Instant) :
    RequestLayer α × List RequestEvent :=
  match l.sent.find? (·.1.id == id) with
  | some (c, since) => ({ l with sent := l.sent.filter (·.1.id != id) }, accounted c since now r)
  | none => (l, [])

/-- A request is dropped. -/
def cancel (l : RequestLayer α) (id : RequestId) : RequestLayer α :=
  { l with
    limiter := l.limiter.abandon id
    drawing := l.drawing.filter (·.id != id)
    queued := l.queued.filter (·.1.id != id)
    sent := l.sent.filter (·.1.id != id) }

/-- The readiness of a service changes. -/
def setReadiness (l : RequestLayer α) (service : Nat) (r : Readiness) : RequestLayer α :=
  { l with readiness := fun k => if k = service then r else l.readiness k }

end RequestLayer

/-! ### Runs with scripted replies -/

/-- What a service will answer to a request, and after how many milliseconds. -/
structure Script where
  id : RequestId
  reply : Reply
  delay : Nat

/-- Requests and the replies that are due to them. -/
structure RequestRun (α : Type) where
  layer : RequestLayer α
  scripts : List Script
  /-- Replies on their way, with the millisecond of their arrival. -/
  arriving : List (Nat × RequestId × Reply)

namespace RequestRun

variable {α : Type} [TokenArithmetic α]

/-- The scripted reply to a request that reached its service. -/
def answerTo? (scripts : List Script) (now : Nat) : RequestEvent → Option (Nat × RequestId × Reply)
  | .reached c => (scripts.find? (·.id == c.id)).map fun s => (now + s.delay, s.id, s.reply)
  | _ => none

/-- Replies reach their requests in turn. -/
def deliver (now : Instant) :
    List (Nat × RequestId × Reply) → RequestLayer α → RequestLayer α × List RequestEvent
  | [], l => (l, [])
  | (_, id, r) :: rest, l =>
    let (l, events) := l.reply id r now
    let (l, more) := deliver now rest l
    (l, events ++ more)

/-- Do everything that can be done at a millisecond: timers, dispatch, replies. -/
def settle (ms : Nat) (r : RequestRun α) : RequestRun α × List RequestEvent :=
  let now := Clock.instantOf ms
  let (layer, dispatched) := (r.layer.wake ms).dispatch now
  let arriving := r.arriving ++ dispatched.filterMap (answerTo? r.scripts ms)
  let (layer, delivered) := deliver now (arriving.filter (·.1 ≤ ms)) layer
  ({ r with layer, arriving := arriving.filter fun a => !decide (a.1 ≤ ms) },
    dispatched ++ delivered)

/-- The next time that something is to be done. -/
def next (r : RequestRun α) : Option Nat :=
  Clock.earliest (r.layer.limiter.nextWake :: r.arriving.map fun a => some a.1)

/-- Send a request with its script, and do what can be done. -/
def send (r : RequestRun α) (ms : Nat) (c : Call) (s : Script) :
    RequestRun α × List RequestEvent :=
  let (layer, sent) := r.layer.send c (Clock.instantOf ms)
  let (r, events) := settle ms { r with layer, scripts := r.scripts ++ [s] }
  (r, sent ++ events)

/-- Change the readiness of services, and do what can be done. -/
def setReadiness (r : RequestRun α) (ms : Nat) (services : List Nat) (readiness : Readiness) :
    RequestRun α × List RequestEvent :=
  settle ms { r with layer := services.foldl (·.setReadiness · readiness) r.layer }

/-- Take a token of the limiter without a request. -/
def tryAcquire (ms : Nat) (r : RequestRun α) : Bool × RequestRun α :=
  let (got, limiter) := r.layer.limiter.tryAcquire (Clock.instantOf ms)
  (got, { r with layer := { r.layer with limiter } })

/-- Let time pass. -/
def advance (now target : Nat) (r : RequestRun α) : RequestRun α × List RequestEvent :=
  Clock.pass next settle now target r

end RequestRun

end ClusterAgent
