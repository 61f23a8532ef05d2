/-
The refreshes of a controller.

Somebody follows a controller at work: writes down every refresh that ends, with what is
told of it, and now and then takes the list of resource kinds out of the catalog and keeps
it.

* `Followed.step` — one thing that happens, or one look;
* `Followed.follow` — such things in any order.

Design notes: what the control plane answers decides how a refresh ends, but not every end
is one that some answers give.  So the inquiry may also go on by a plan of any kind, and a
refresh may end in any way.
-/
import ClusterAgent.Controller.Run

namespace ClusterAgent

/-- A refresh that ended: when, how, and what was told of it. -/
structure Finish where
  now : Instant
  refresh : Refresh
  told : List Notice

/-- A controller at work, the lists that were taken from its catalog, the refreshes that ended,
and all that was told. -/
structure Followed (α : Type) where
  run : ControllerRun α
  held : List Catalog
  finished : List Finish
  told : List Notice

namespace Followed

/-- One thing that happens, or is done to follow it. -/
inductive Move where
  | act (a : ControllerRun.Action)
  /-- The inquiry goes on by a plan of any kind. -/
  | proceed (plan : Plan Refresh)
  /-- The list in the catalog is taken and kept. -/
  | hold

variable {α : Type} [TokenArithmetic α]

/-- A controller begins. -/
def start (limits : RateLimit → Limits α) (o : ControllerOptions) (now : Instant) : Followed α :=
  let (run, told) := ControllerRun.start limits o now
  ⟨run, [], [], told⟩

/-- The refresh that ends by an action, if one does. -/
def ending? (s : ControllerRun α) : ControllerRun.Action → Option Refresh
  | .conclude =>
    match s.controller.inquiry? with
    | some (_, .done refresh) => some refresh
    | _ => none
  | _ => none

/-- One thing happens. -/
def step (f : Followed α) : Move → Followed α
  | .act a =>
    let (run, ns) := f.run.step a
    let finished := (ending? f.run a).map (⟨f.run.now, ·, ns⟩)
    { f with run, finished := f.finished ++ finished.toList, told := f.told ++ ns }
  | .proceed plan => { f with run := { f.run with controller := f.run.controller.proceed plan } }
  | .hold => { f with held := f.held ++ [f.run.catalog] }

/-- Things happen one after the other. -/
def follow (f : Followed α) (moves : List Move) : Followed α := moves.foldl step f

end Followed

end ClusterAgent
