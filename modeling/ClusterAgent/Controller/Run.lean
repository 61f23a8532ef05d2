/-
A controller at work.

The tasks of a controller take their turns in any order, and each one when it gets
round to it: a task may run for the first time long after it was spawned, a tick may be
taken late, a generation may be picked up late or not at all, and an inquiry may be
answered late and by anything.

* `ControllerRun.step` — one thing that happens;
* `ControllerRun.run` — such things in any order;
* `ControllerRun.outcome` — how the controller would stop.

Design notes: what cannot be done does nothing, so any sequence of actions is a run.  A
task that is called off before it ran heeds that only when it runs, and by then it has
worked out its first tick.
-/
import ClusterAgent.Controller.Tasks

namespace ClusterAgent

/-- The inquiry goes on by an answer, if it waits for one. -/
def Controller.hear {α : Type} (r : Controller α) (fetched : Fetched) : Controller α :=
  match r.inquiry? with
  | some (_, .ask _ resume) => r.proceed (resume fetched)
  | _ => r

/-- A controller, the catalog that it fills, and the time. -/
structure ControllerRun (α : Type) where
  controller : Controller α
  catalog : Catalog
  now : Instant

namespace ControllerRun

/-- One thing that happens. -/
inductive Action where
  | wait (nanos : Nat)
  /-- The discovery task runs for the first time. -/
  | beginDiscovery
  /-- The flush task runs for the first time. -/
  | beginFlush
  /-- The discovery task looks whether its tick is due. -/
  | tickDiscovery
  /-- What the inquiry asked for last is answered. -/
  | answer (fetched : Fetched)
  /-- The discovery task looks whether its inquiry is done. -/
  | conclude
  /-- The flush task looks whether its tick is due. -/
  | tickFlush
  /-- A worker looks for a newer generation. -/
  | pickUp (worker : Nat)
  | stop

variable {α : Type} [TokenArithmetic α]

/-- A controller is started, with nothing in its catalog. -/
def start (limits : RateLimit → Limits α) (o : ControllerOptions) (now : Instant) :
    ControllerRun α × List Notice :=
  let (controller, ns) := Controller.start limits o
  (⟨controller, Catalog.empty, now⟩, ns)

/-- One thing happens. -/
def step (s : ControllerRun α) : Action → ControllerRun α × List Notice
  | .wait nanos => ({ s with now := s.now + nanos }, [])
  | .beginDiscovery => ({ s with controller := s.controller.beginDiscovery s.now }, [])
  | .beginFlush => ({ s with controller := s.controller.beginFlush s.now }, [])
  | .tickDiscovery => ({ s with controller := s.controller.tickDiscovery s.now }, [])
  | .answer fetched => ({ s with controller := s.controller.hear fetched }, [])
  | .conclude =>
    let (controller, catalog, ns) := s.controller.conclude s.catalog s.now
    ({ s with controller, catalog }, ns)
  | .tickFlush =>
    let (controller, ns) := s.controller.tickFlush s.now
    ({ s with controller }, ns)
  | .pickUp worker =>
    let (relist, ns) := s.controller.relist.wake s.catalog.size worker
    ({ s with controller := { s.controller with relist } }, ns)
  | .stop =>
    let (controller, _, ns) := s.controller.shutDown s.now
    ({ s with controller }, ns)

/-- Things happen one after the other. -/
def run (s : ControllerRun α) : List Action → ControllerRun α × List Notice
  | [] => (s, [])
  | a :: rest =>
    let (s, ns) := s.step a
    let (s, more) := s.run rest
    (s, ns ++ more)

/-- How the controller would stop. -/
def outcome (s : ControllerRun α) : Except StopFault Unit :=
  (s.controller.shutDown s.now).2.1

theorem run_append (s : ControllerRun α) (xs ys : List Action) :
    s.run (xs ++ ys) =
      let front := s.run xs
      let back := front.1.run ys
      (back.1, front.2 ++ back.2) := by
  induction xs generalizing s with
  | nil => rfl
  | cons a xs ih => simp [run, ih]

end ControllerRun

end ClusterAgent
