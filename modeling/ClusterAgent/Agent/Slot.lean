/-
Asking the agent to shut down.

A `Slot` is a switch that is set once.  Any number of handles can set it, any
number of signals wait for it; when its last handle is gone nobody can set it any
more, and that counts as set for those who wait.

* `Slot.trigger` — set the slot; true only for the call that did it;
* `Slot.ready` — what a waiting signal sees;
* `Coordinator.begin` — leave the running state; true only for the call that did;
* `Coordinator.run` — calls to a coordinator in turn.

`SlotTable` keeps slots, handles and signals that come and go, and `SlotTable.run` does
actions on any of them in turn.
-/
namespace ClusterAgent

/-- A switch that is set once, and how many handles can still set it. -/
structure Slot where
  triggered : Bool
  holders : Nat
deriving DecidableEq

namespace Slot

/-- Not set, with one handle. -/
def new : Slot := ⟨false, 1⟩

/-- Set the slot. True only for the call that set it. -/
def trigger (s : Slot) : Bool × Slot := (!s.triggered, { s with triggered := true })

/-- Whether a signal that waits for the slot may go on. -/
def ready (s : Slot) : Bool := s.triggered || s.holders == 0

end Slot

/-- The state of the teardown. There is no way back. -/
inductive Coordinator where
  | running
  | shuttingDown
deriving DecidableEq

/-- The name of the state. -/
def Coordinator.name : Coordinator → String
  | .running => "Running"
  | .shuttingDown => "ShuttingDown"

/-- Leave the running state. True only for the call that left it. -/
def Coordinator.begin : Coordinator → Bool × Coordinator
  | .running => (true, .shuttingDown)
  | .shuttingDown => (false, .shuttingDown)

namespace Coordinator

/-- What a coordinator is called for. -/
inductive Call where
  | begin
  | state
deriving DecidableEq

/-- What a call returns. -/
inductive Reply where
  | won (first : Bool)
  | found (state : Coordinator)
deriving DecidableEq

/-- One call. -/
def step (c : Coordinator) : Call → Coordinator × Reply
  | .begin => (c.begin.2, .won c.begin.1)
  | .state => (c, .found c)

/-- Calls in turn, and what they return. -/
def run (c : Coordinator) : List Call → Coordinator × List Reply
  | [] => (c, [])
  | call :: calls =>
    let (c, reply) := c.step call
    let (c, replies) := c.run calls
    (c, reply :: replies)

end Coordinator

/-! ### Many slots -/

/-- Slots with the handles and the signals that refer to them. A handle that was
dropped refers to nothing. -/
structure SlotTable where
  slots : List Slot
  handles : List (Option Nat)
  signals : List Nat

namespace SlotTable

/-- One slot with one handle. -/
def new : SlotTable := ⟨[Slot.new], [some 0], []⟩

/-- What can be done to slots, handles and signals, each by its number. -/
inductive Action where
  | create
  | clone (handle : Nat)
  | drop (handle : Nat)
  | trigger (handle : Nat)
  | isTriggered (handle : Nat)
  | subscribe (handle : Nat)
  | cloneSignal (signal : Nat)
  | receive (signal : Nat)
deriving DecidableEq

/-- What an action tells. -/
inductive Answer where
  | handles (count : Nat)
  | dropped (handle : Nat)
  | wasSet (first : Bool)
  | triggered (yes : Bool)
  | signals (count : Nat)
  | ready (yes : Bool)
  /-- The handle or signal is not there. -/
  | absent
deriving DecidableEq

/-- The slot of a handle that was not dropped, with its number. -/
def slotOf? (t : SlotTable) (handle : Nat) : Option (Nat × Slot) := do
  let k ← (← t.handles[handle]?)
  return (k, ← t.slots[k]?)

/-- Replace a slot. -/
def setSlot (t : SlotTable) (k : Nat) (s : Slot) : SlotTable := { t with slots := t.slots.set k s }

/-- Do one action. -/
def step (t : SlotTable) : Action → SlotTable × Answer
  | .create =>
    let t :=
      { t with slots := t.slots ++ [Slot.new], handles := t.handles ++ [some t.slots.length] }
    (t, .handles t.handles.length)
  | .clone h =>
    match t.slotOf? h with
    | some (k, s) =>
      let t := t.setSlot k { s with holders := s.holders + 1 }
      let t := { t with handles := t.handles ++ [some k] }
      (t, .handles t.handles.length)
    | none => (t, .absent)
  | .drop h =>
    match t.slotOf? h with
    | some (k, s) =>
      let t := t.setSlot k { s with holders := s.holders - 1 }
      ({ t with handles := t.handles.set h none }, .dropped h)
    | none => (t, .absent)
  | .trigger h =>
    match t.slotOf? h with
    | some (k, s) => (t.setSlot k s.trigger.2, .wasSet s.trigger.1)
    | none => (t, .absent)
  | .isTriggered h =>
    match t.slotOf? h with
    | some (_, s) => (t, .triggered s.triggered)
    | none => (t, .absent)
  | .subscribe h =>
    match t.slotOf? h with
    | some (k, _) =>
      let t := { t with signals := t.signals ++ [k] }
      (t, .signals t.signals.length)
    | none => (t, .absent)
  | .cloneSignal g =>
    match t.signals[g]? with
    | some k =>
      let t := { t with signals := t.signals ++ [k] }
      (t, .signals t.signals.length)
    | none => (t, .absent)
  | .receive g =>
    match t.signals[g]?.bind (t.slots[·]?) with
    | some s => (t, .ready s.ready)
    | none => (t, .absent)

/-- Actions in turn, and what they tell. -/
def run (t : SlotTable) : List Action → SlotTable × List Answer
  | [] => (t, [])
  | a :: rest =>
    let (t, answer) := t.step a
    let (t, answers) := t.run rest
    (t, answer :: answers)

theorem run_append (t : SlotTable) (xs ys : List Action) :
    t.run (xs ++ ys) =
      let front := t.run xs
      let back := front.1.run ys
      (back.1, front.2 ++ back.2) := by
  induction xs generalizing t with
  | nil => rfl
  | cons x xs ih => simp [run, ih]

end SlotTable

end ClusterAgent
