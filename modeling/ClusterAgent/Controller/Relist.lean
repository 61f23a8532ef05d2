/-
Generations of the object caches.

Every flush begins a new generation.  Workers are told that there is a newer one
and pick up the newest; what came in between they never see.

* `Relist.flush` — begin a generation;
* `Relist.wake` — a worker looks for a newer generation;
* `Relist.close` — no generation will begin any more: a worker ends once it has
  the newest.
-/
import ClusterAgent.Controller.Ticker
import ClusterAgent.Telemetry.Notice

namespace ClusterAgent

/-- How far a task is. -/
inductive Task (σ : Type) where
  | running (state : σ)
  | ended
  | panicked (cause : TaskPanic)

namespace Task

/-- A task that begins unless its first step panics. -/
def begin {σ : Type} : Except TaskPanic σ → Task σ
  | .ok state => running state
  | .error cause => panicked cause

/-- The panic of a task. -/
def panic? {σ : Type} : Task σ → Option TaskPanic
  | panicked cause => some cause
  | _ => none

/-- Whether a task is running. -/
def isRunning {σ : Type} : Task σ → Bool
  | running _ => true
  | _ => false

/-- A running task ends; one that panicked stays so. -/
def stop {σ : Type} : Task σ → Task σ
  | running _ => ended
  | t => t

theorem isRunning_stop {σ : Type} (t : Task σ) : t.stop.isRunning = false := by
  cases t <;> rfl

theorem panic?_stop {σ : Type} (t : Task σ) : t.stop.panic? = t.panic? := by
  cases t <;> rfl

end Task

/-- The generation there is, and the last one each worker picked up. -/
structure Relist where
  generation : Nat
  workers : List (Task Nat)
  closed : Bool

namespace Relist

/-- The generation that is there from the start. -/
def start (workers : Nat) : Relist := ⟨0, List.replicate workers (.running 0), false⟩

/-- Begin a generation. -/
def flush (r : Relist) : Relist × List Notice :=
  let generation := r.generation + 1
  ({ r with generation }, [.measured .cacheFlush, .logged (.flushing generation)])

/-- What becomes of a worker that looks for a newer generation. -/
def look (r : Relist) (resources id : Nat) : Task Nat → Task Nat × List Notice
  | .running seen =>
    if seen < r.generation then
      (.running r.generation, [.logged (.relistPickedUp id r.generation resources)])
    else (if r.closed then .ended else .running seen, [])
  | t => (t, [])

/-- A worker looks for a newer generation. -/
def wake (r : Relist) (resources id : Nat) : Relist × List Notice :=
  match r.workers[id]? with
  | some worker =>
    let (worker, ns) := r.look resources id worker
    ({ r with workers := r.workers.set id worker }, ns)
  | none => (r, [])

/-- All workers look. -/
def wakeAll (r : Relist) (resources : Nat) : Relist × List Notice :=
  let looked := r.workers.zipIdx.map fun (worker, id) => r.look resources id worker
  ({ r with workers := looked.map (·.1) }, looked.flatMap (·.2))

/-- No generation will begin any more. -/
def close (r : Relist) : Relist := { r with closed := true }

/-- All workers end. -/
def stop (r : Relist) : Relist := { r with workers := r.workers.map Task.stop }

end Relist

end ClusterAgent
