/-
Journals that are shared.

A journal is shared by its clones, and several parts of the agent use them at the same
time.  To record an event takes three steps: it is logged, it is counted, and it is
appended to the list.  Other parts may come between them, and may be faster.

* `JournalTable.step` — one action, with its answer and its notices;
* `JournalTable.run` — actions in turn;
* `JournalTable.record` — the three steps with nothing between them,
  `JournalTable.record_eq` — which are `Journal.record`.

Design notes: the list has a lock, so whoever looks at it or appends to it does so in one
step.  A recording under way is told by its place among those that are as far; that place
is arbitrary, so any order in which the parts go on is a run.
-/
import ClusterAgent.Agent.Journal

namespace ClusterAgent

/-- A recording under way: the journal, by its number, and the event. -/
structure Recording where
  journal : Nat
  event : LifecycleEvent
deriving DecidableEq

/-- Journals with the clones that refer to them. A clone that was dropped refers to nothing. -/
structure JournalTable where
  journals : List Journal
  clones : List (Option Nat)
  /-- Recordings that are logged and not yet counted. -/
  logged : List Recording
  /-- Recordings that are counted and not yet appended. -/
  counted : List Recording

namespace JournalTable

/-- One journal with one clone. -/
def new : JournalTable := ⟨[Journal.empty], [some 0], [], []⟩

/-- What can be done to journals, each by the number of a clone. -/
inductive Action where
  | create
  | clone (c : Nat)
  | drop (c : Nat)
  /-- A recording begins, and its event is logged. -/
  | log (c : Nat) (event : LifecycleEvent)
  /-- One of the logged recordings is counted. -/
  | measure (i : Nat)
  /-- The event of one of the counted recordings is appended. -/
  | append (i : Nat)
  | snapshot (c : Nat)
  | debugAddr (c : Nat)
  | count (c : Nat) (name : String)
deriving DecidableEq

/-- What an action tells. -/
inductive Answer where
  | clones (count : Nat)
  | dropped (c : Nat)
  /-- A recording of an event in a journal has begun, goes on, or has ended. -/
  | began (r : Recording)
  | measured (r : Recording)
  | recorded (r : Recording)
  | events (es : List LifecycleEvent)
  | address (a : Option SocketAddress)
  | count (n : Nat)
  /-- The clone or the recording is not there. -/
  | absent
deriving DecidableEq

/-- The journal of a clone that was not dropped, with its number. -/
def journalOf? (t : JournalTable) (c : Nat) : Option (Nat × Journal) := do
  let k ← (← t.clones[c]?)
  return (k, ← t.journals[k]?)

/-- Use the journal of a clone, if the clone is there. -/
def withJournal (t : JournalTable) (c : Nat)
    (f : Nat → Journal → JournalTable × Answer × List Notice) :
    JournalTable × Answer × List Notice :=
  match t.journalOf? c with
  | some (k, j) => f k j
  | none => (t, .absent, [])

/-- Do one action. -/
def step (t : JournalTable) : Action → JournalTable × Answer × List Notice
  | .create =>
    let t := { t with
      journals := t.journals ++ [Journal.empty]
      clones := t.clones ++ [some t.journals.length] }
    (t, .clones t.clones.length, [])
  | .clone c => t.withJournal c fun k _ =>
    let t := { t with clones := t.clones ++ [some k] }
    (t, .clones t.clones.length, [])
  | .drop c => t.withJournal c fun _ _ =>
    ({ t with clones := t.clones.set c none }, .dropped c, [])
  | .log c e => t.withJournal c fun k _ =>
    ({ t with logged := t.logged ++ [⟨k, e⟩] }, .began ⟨k, e⟩, [.logged (.lifecycleStep e.name)])
  | .measure i =>
    match t.logged[i]? with
    | some r =>
      ({ t with logged := t.logged.eraseIdx i, counted := t.counted ++ [r] }, .measured r,
        [.measured (.lifecycle r.event.name)])
    | none => (t, .absent, [])
  | .append i =>
    match t.counted[i]? with
    | some r =>
      ({ t with
        journals := t.journals.modify r.journal fun j => (j.record r.event).1
        counted := t.counted.eraseIdx i }, .recorded r, [])
    | none => (t, .absent, [])
  | .snapshot c => t.withJournal c fun _ j => (t, .events j.events, [])
  | .debugAddr c => t.withJournal c fun _ j => (t, .address j.debugAddr, [])
  | .count c name => t.withJournal c fun _ j => (t, .count (j.count name), [])

/-- What an action would tell now. -/
def tell (t : JournalTable) (a : Action) : Answer := (t.step a).2.1

/-- Actions in turn, what they tell and what they note. -/
def run (t : JournalTable) : List Action → JournalTable × List Answer × List Notice
  | [] => (t, [], [])
  | a :: rest =>
    let (t, answer, ns) := t.step a
    let (t, answers, more) := t.run rest
    (t, answer :: answers, ns ++ more)

/-- A clone of a journal finds it. -/
theorem withJournal_of_journalOf? {t : JournalTable} {c k : Nat} {j : Journal}
    (h : t.journalOf? c = some (k, j)) (f : Nat → Journal → JournalTable × Answer × List Notice) :
    t.withJournal c f = f k j := by
  rw [withJournal, h]

/-- Record an event through a clone, with nothing between the steps. -/
def record (t : JournalTable) (c : Nat) (e : LifecycleEvent) :
    JournalTable × List Answer × List Notice :=
  t.run [.log c e, .measure t.logged.length, .append t.counted.length]

/-- **Recording.** With nothing between its steps, a recording through a clone does to the
journal of that clone what `Journal.record` does, and gives rise to the same notices. -/
theorem record_eq {t : JournalTable} {c k : Nat} {j : Journal} (h : t.journalOf? c = some (k, j))
    (e : LifecycleEvent) :
    t.record c e =
      ({ t with journals := t.journals.modify k fun j => (j.record e).1 },
        [.began ⟨k, e⟩, .measured ⟨k, e⟩, .recorded ⟨k, e⟩], (j.record e).2) := by
  simp [record, run, step, withJournal_of_journalOf? h, List.eraseIdx_append_of_length_le,
    Journal.record]

end JournalTable

end ClusterAgent
