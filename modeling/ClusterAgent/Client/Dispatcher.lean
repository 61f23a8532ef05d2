/-
Requests that take turns at the lock of their service.

A service takes one request at a time, so a request that drew its token asks for
the lock of the service.  The lock is handed on in the order in which it was asked
for.  Whoever holds it asks whether the service is ready, and keeps it while the
service is not.  The lock is let go when the request is handed over, when its check
fails, and when the request is dropped; nobody holds it while waiting for a reply.

* `Lock.ask`, `Lock.release`, `Lock.leave` — what is done with a lock;
* `Dispatcher.step` — one thing that happens to one request, or to a service;
* `Dispatcher.run` — such things in any order.

Design notes: requests on their way are those of a `RequestLayer`, which does at once
all that can be done; here each wait of each request is a point at which anything
else may happen.  The numbers of requests go up as they are sent.  What cannot be done
does nothing, so any sequence of actions is a run.
-/
import ClusterAgent.Client.Requests

namespace ClusterAgent

/-! ### Locks -/

/-- A lock: free, or held by one while others stand in line for it. -/
inductive Lock where
  | free
  | held (holder : RequestId) (line : List RequestId)
deriving DecidableEq

namespace Lock

/-- Whoever holds the lock. -/
def holder? : Lock → Option RequestId
  | free => none
  | held holder _ => some holder

/-- The holder and those in line behind. -/
def queue : Lock → List RequestId
  | free => []
  | held holder line => holder :: line

/-- Take the lock if it is free, or go to the end of the line. -/
def ask (id : RequestId) : Lock → Lock
  | free => held id []
  | held holder line => held holder (line ++ [id])

/-- The holder lets go, and the next one in line holds the lock. -/
def release : Lock → Lock
  | held _ (next :: line) => held next line
  | _ => free

/-- Somebody gives up: a holder lets go, and another one leaves the line. -/
def leave (id : RequestId) : Lock → Lock
  | free => free
  | held holder line =>
    if holder = id then (held holder line).release else held holder (line.erase id)

@[simp] theorem queue_ask (l : Lock) (id : RequestId) : (l.ask id).queue = l.queue ++ [id] := by
  cases l <;> rfl

@[simp] theorem queue_release (l : Lock) : l.release.queue = l.queue.tail := by
  rcases l with _ | ⟨holder, _ | ⟨next, line⟩⟩ <;> rfl

@[simp] theorem queue_leave (l : Lock) (id : RequestId) :
    (l.leave id).queue = l.queue.erase id := by
  rcases l with _ | ⟨holder, line⟩
  · rfl
  · by_cases h : holder = id
    · rw [leave, if_pos h, queue_release, queue, h, List.erase_cons_head]
      rfl
    · simp [leave, queue, h]

theorem holder?_eq (l : Lock) : l.holder? = l.queue.head? := by cases l <;> rfl

end Lock

/-! ### Requests and locks -/

/-- Requests on their way, the lock of each service, and the least number for the next request. -/
structure Dispatcher (α : Type) where
  layer : RequestLayer α
  locks : Nat → Lock
  fresh : RequestId

namespace Dispatcher

/-- One thing that happens. -/
inductive Action where
  /-- A request under a number above all before is sent. -/
  | send (call : Call)
  /-- A request that waits for a token tries again. -/
  | retry (id : RequestId)
  /-- A request with a token asks for the lock of its service. -/
  | ask (id : RequestId)
  /-- The holder of a lock asks whether its service is ready. -/
  | check (id : RequestId)
  | reply (id : RequestId) (r : Reply)
  | cancel (id : RequestId)
  | setReadiness (service : Nat) (r : Readiness)
  /-- Somebody takes a token of the limiter without a request. -/
  | tryAcquire

/-- What is known of the requests, also what is not seen from outside. -/
inductive Event where
  | began (call : Call)
  /-- A request got a token. -/
  | drew (id : RequestId)
  /-- The service of a request failed its readiness check. -/
  | refused (call : Call) (cause : String)
  /-- The service of a request answered it. -/
  | answered (call : Call) (reply : Reply)
  | dropped (id : RequestId)
  | seen (event : RequestEvent)

variable {α : Type} [TokenArithmetic α]

/-- No request was sent yet. -/
def new (limiter : Limiter α) : Dispatcher α := ⟨RequestLayer.new limiter, fun _ => .free, 0⟩

/-- A request that waits for its service, with the instant of its token. -/
def queued? (d : Dispatcher α) (id : RequestId) : Option (Call × Instant) :=
  d.layer.queued.find? (·.1.id == id)

/-- Whether a request is on its way. -/
def isPending (d : Dispatcher α) (id : RequestId) : Bool :=
  d.layer.drawing.any (·.id == id) || d.layer.queued.any (·.1.id == id) ||
    d.layer.sent.any (·.1.id == id)

/-- Put a lock in its place. -/
def setLock (d : Dispatcher α) (service : Nat) (l : Lock) : Dispatcher α :=
  { d with locks := fun k => if k = service then l else d.locks k }

/-- A request leaves the queue, and lets go of the lock. -/
def pass (d : Dispatcher α) (c : Call) : Dispatcher α :=
  { d with layer := { d.layer with queued := d.layer.queued.filter (·.1.id != c.id) } }.setLock
    c.service (d.locks c.service).release

/-- A request is sent, unless its number is not above all before. -/
def send (d : Dispatcher α) (c : Call) (now : Instant) : Dispatcher α × List Event :=
  if c.id < d.fresh then (d, [])
  else
    let granted := (d.layer.limiter.acquire c.id now).1
    let (layer, es) := d.layer.send c now
    ({ d with layer, fresh := c.id + 1 },
      .began c :: (if granted then [.drew c.id] else []) ++ es.map .seen)

/-- A request that waits for a token tries again. -/
def retry (d : Dispatcher α) (id : RequestId) (now : Instant) : Dispatcher α × List Event :=
  if d.layer.drawing.any (·.id == id) then
    let (limiter, granted) := Limiter.retryAll now [id] d.layer.limiter
    ({ d with layer := { d.layer with limiter }.drawn granted now }, granted.map .drew)
  else (d, [])

/-- A request asks for the lock of its service, unless it did. -/
def ask (d : Dispatcher α) (id : RequestId) : Dispatcher α :=
  match d.queued? id with
  | some (c, _) =>
    let lock := d.locks c.service
    if id ∈ lock.queue then d else d.setLock c.service (lock.ask id)
  | none => d

/-- The holder of a lock asks whether its service is ready: then it is handed over; if the
check fails it ends; and else it waits on. -/
def check (d : Dispatcher α) (id : RequestId) (now : Instant) : Dispatcher α × List Event :=
  match d.queued? id with
  | some (c, since) =>
    if (d.locks c.service).holder? = some id then
      match d.layer.readiness c.service with
      | .pending => (d, [])
      | .ready =>
        let d := d.pass c
        ({ d with layer := { d.layer with sent := d.layer.sent ++ [(c, since)] } },
          [.seen (.reached c)])
      | .failing cause =>
        (d.pass c, .refused c cause ::
          (RequestLayer.accounted c since now (.failure cause)).map .seen)
    else (d, [])
  | none => (d, [])

/-- A reply arrives for a request that was handed over. -/
def reply (d : Dispatcher α) (id : RequestId) (r : Reply) (now : Instant) :
    Dispatcher α × List Event :=
  let answer := (d.layer.sent.find? (·.1.id == id)).map fun (c, _) => Event.answered c r
  let (layer, es) := d.layer.reply id r now
  ({ d with layer }, answer.toList ++ es.map .seen)

/-- A request is dropped. -/
def cancel (d : Dispatcher α) (id : RequestId) : Dispatcher α × List Event :=
  ({ d with layer := d.layer.cancel id, locks := fun k => (d.locks k).leave id },
    if d.isPending id then [.dropped id] else [])

/-- One thing happens. -/
def step (d : Dispatcher α) (now : Instant) : Action → Dispatcher α × List Event
  | .send c => d.send c now
  | .retry id => d.retry id now
  | .ask id => (d.ask id, [])
  | .check id => d.check id now
  | .reply id r => d.reply id r now
  | .cancel id => d.cancel id
  | .setReadiness service r => ({ d with layer := d.layer.setReadiness service r }, [])
  | .tryAcquire =>
    ({ d with layer := { d.layer with limiter := (d.layer.limiter.tryAcquire now).2 } }, [])

/-- Things happen one after the other, each at its instant. -/
def run (d : Dispatcher α) : List (Instant × Action) → Dispatcher α × List Event
  | [] => (d, [])
  | (now, a) :: rest =>
    let (d, es) := d.step now a
    let (d, more) := d.run rest
    (d, es ++ more)

theorem run_append (d : Dispatcher α) (xs ys : List (Instant × Action)) :
    d.run (xs ++ ys) =
      let front := d.run xs
      let back := front.1.run ys
      (back.1, front.2 ++ back.2) := by
  induction xs generalizing d with
  | nil => rfl
  | cons x xs ih => simp [run, ih]

end Dispatcher

end ClusterAgent
