/-
Slots do as if they were alone.

Handles and signals of many slots come and go in any order.  Each slot sees only what
is done to it, and answers as it would if there were no other slot.  So what is promised
of one slot is promised of each: the first call that sets it is told so and no other is,
and whoever waits for it goes on once it is set or once nobody is left who can set it.

* `Slot.use`, `Slot.tell` — one slot that is used in turn, and what it tells;
* `SlotTable.Move` — what an action does to the slots, the handles and the signals,
  `SlotTable.step_move` — every action is a move;
* `SlotTable.Kept` — each slot is as if alone, and counts the handles that refer to it;
* `SlotTable.Protocol`, `Coordinator.Once` — what is promised of slots and of coordinators,
  `shutdown_once` — and kept by every run of either.

Design notes: a handle or a signal is told by its number, which no other gets later.  An
action on one that is not there is on no slot.
-/
import ClusterAgent.Agent.Slot
import Mathlib.Data.List.Induction
import Mathlib.Data.List.Basic

namespace ClusterAgent

/-- Of the calls that were made, the first one won and no other. -/
def FirstWins (won : List Bool) : Prop := won = [] ∨ ∃ n, won = true :: List.replicate n false

theorem FirstWins.concat {won : List Bool} {first : Bool} (h : FirstWins won)
    (hfirst : first ↔ won = []) : FirstWins (won ++ [first]) := by
  rcases h with rfl | ⟨n, rfl⟩
  · exact .inr ⟨0, by simpa using hfirst⟩
  · refine .inr ⟨n + 1, ?_⟩
    rw [Bool.eq_false_iff.mpr (mt hfirst.mp (by simp)), List.replicate_succ', List.cons_append]

namespace Slot

/-! ### One slot -/

/-- What can be done to a slot. -/
inductive Use where
  /-- One more handle refers to it, or one less. -/
  | clone
  | drop
  | trigger
  /-- A handle asks whether it is set. -/
  | look
  /-- A signal waits for it. -/
  | receive
deriving DecidableEq

/-- The slot after a use, and what is told. -/
def use (s : Slot) : Use → Slot × Option Bool
  | .clone => ({ s with holders := s.holders + 1 }, none)
  | .drop => ({ s with holders := s.holders - 1 }, none)
  | .trigger => (s.trigger.2, some s.trigger.1)
  | .look => (s, some s.triggered)
  | .receive => (s, some s.ready)

def after (s : Slot) (us : List Use) : Slot := us.foldl (fun s u => (s.use u).1) s

/-- Several uses in turn, each with what is told. -/
def tell (s : Slot) : List Use → List (Use × Option Bool)
  | [] => []
  | u :: us => (u, (s.use u).2) :: tell (s.use u).1 us

def setters (told : List (Use × Option Bool)) : List Bool :=
  told.filterMap fun ub => if ub.1 = .trigger then ub.2 else none

theorem after_concat (s : Slot) (us : List Use) (u : Use) :
    s.after (us ++ [u]) = ((s.after us).use u).1 := by
  rw [after, List.foldl_append]
  rfl

theorem tell_concat (s : Slot) (us : List Use) (u : Use) :
    s.tell (us ++ [u]) = s.tell us ++ [(u, ((s.after us).use u).2)] := by
  induction us generalizing s with
  | nil => rfl
  | cons v us ih => exact congrArg _ (ih _)

/-- **One slot is set once.** The first of those who set it is told so, and it is set from then
on. -/
theorem setters_tell (us : List Use) :
    FirstWins (setters (new.tell us)) ∧
      ((new.after us).triggered ↔ setters (new.tell us) ≠ []) := by
  induction us using List.reverseRecOn with
  | nil => exact ⟨.inl rfl, by simp [after, new, tell, setters]⟩
  | append_singleton us u ih =>
    obtain ⟨hwins, hset⟩ := ih
    rw [after_concat, tell_concat, setters, List.filterMap_append, ← setters]
    cases u with
    | trigger =>
      have hfirst : (new.after us).trigger.1 ↔ setters (new.tell us) = [] := by
        rw [trigger, Bool.not_eq_true', ← Bool.not_eq_true, hset, not_not]
      exact ⟨by simpa [use] using hwins.concat hfirst, by simp [use, trigger]⟩
    | _ => simpa [use] using And.intro hwins hset

end Slot

namespace SlotTable

open Slot (Use)

/-! ### What is done to which slot -/

/-- The slot that an action is on. -/
def subject? (t : SlotTable) : Action → Option Nat
  | .create => none
  | .clone h | .drop h | .trigger h | .isTriggered h | .subscribe h => t.handles[h]?.join
  | .cloneSignal g | .receive g => t.signals[g]?

/-- What an action does to its slot, if it does anything to it. -/
def Action.use? : Action → Option Use
  | .clone _ => some .clone
  | .drop _ => some .drop
  | .trigger _ => some .trigger
  | .isTriggered _ => some .look
  | .receive _ => some .receive
  | .create | .subscribe _ | .cloneSignal _ => none

def Answer.said? : Answer → Option Bool
  | .wasSet yes | .triggered yes | .ready yes => some yes
  | _ => none

/-- An action with its slot and its answer. -/
structure Deed where
  slot : Option Nat
  action : Action
  answer : Answer

/-- The use of a slot, with what is told of it, if it is on this one. -/
def Deed.on (k : Nat) (d : Deed) : Option (Use × Option Bool) :=
  if d.slot = some k then d.action.use?.map (·, d.answer.said?) else none

/-- An action in a table, with what it is on and what it tells. -/
def deed (t : SlotTable) (a : Action) : Deed := ⟨t.subject? a, a, (t.step a).2⟩

def history (t : SlotTable) : List Action → List Deed
  | [] => []
  | a :: acts => t.deed a :: history (t.step a).1 acts

/-- The uses of one slot among what was done, with what was told of it. -/
def toldOn (k : Nat) (ds : List Deed) : List (Use × Option Bool) := ds.filterMap (·.on k)

def settersOf (k : Nat) (ds : List Deed) : List Bool := Slot.setters (toldOn k ds)

theorem toldOn_append (k : Nat) (ds es : List Deed) :
    toldOn k (ds ++ es) = toldOn k ds ++ toldOn k es := List.filterMap_append

theorem settersOf_append (k : Nat) (ds es : List Deed) :
    settersOf k (ds ++ es) = settersOf k ds ++ settersOf k es := by
  rw [settersOf, toldOn_append, Slot.setters, List.filterMap_append]
  rfl

theorem history_append (t : SlotTable) (xs ys : List Action) :
    t.history (xs ++ ys) = t.history xs ++ (t.run xs).1.history ys := by
  induction xs generalizing t with
  | nil => rfl
  | cons x xs ih => exact congrArg _ (ih _)

theorem answers_history (t : SlotTable) (acts : List Action) :
    (t.history acts).map (·.answer) = (t.run acts).2 := by
  induction acts generalizing t with
  | nil => rfl
  | cons a acts ih => exact congrArg _ (ih _)

/-! ### Moves -/

/-- Handles and signals refer to slots that are there. -/
structure InRange (t : SlotTable) : Prop where
  handles : ∀ k, some k ∈ t.handles → k < t.slots.length
  signals : ∀ k ∈ t.signals, k < t.slots.length

/-- What an action is on, how it uses that, and what it leaves. -/
inductive Move (t : SlotTable) : Option Nat → Option (Use × Option Bool) → SlotTable → Prop
  /-- The handle or signal is not there. -/
  | absent (told : Option (Use × Option Bool)) : Move t none told t
  | create : Move t none none
      { t with slots := t.slots ++ [Slot.new], handles := t.handles ++ [some t.slots.length] }
  /-- One more signal waits for a slot. -/
  | watch (k : Nat) (there : k < t.slots.length) :
      Move t (some k) none { t with signals := t.signals ++ [k] }
  | clone (k : Nat) (s : Slot) (there : t.slots[k]? = some s) (live : some k ∈ t.handles) :
      Move t (some k) (some (.clone, none))
        { t.setSlot k (s.use .clone).1 with handles := t.handles ++ [some k] }
  | drop (k : Nat) (s : Slot) (handle : Nat) (there : t.slots[k]? = some s)
      (live : t.handles[handle]? = some (some k)) :
      Move t (some k) (some (.drop, none))
        { t.setSlot k (s.use .drop).1 with handles := t.handles.set handle none }
  /-- A slot is set, or asked about. -/
  | ask (k : Nat) (s : Slot) (u : Use) (there : t.slots[k]? = some s)
      (keeps : (s.use u).1.holders = s.holders) :
      Move t (some k) (some (u, (s.use u).2)) (t.setSlot k (s.use u).1)

variable {t t' : SlotTable}

theorem setSlot_self {k : Nat} {s : Slot} (h : t.slots[k]? = some s) : t.setSlot k s = t := by
  obtain ⟨hk, rfl⟩ := List.getElem?_eq_some_iff.mp h
  rw [setSlot, List.set_getElem_self]

/-- A handle that is there refers to a slot that is there. -/
theorem InRange.handle (hrange : t.InRange) {h k : Nat} (hh : t.handles[h]? = some (some k)) :
    ∃ s, t.slots[k]? = some s ∧ t.slotOf? h = some (k, s) := by
  have hk : k < t.slots.length := hrange.handles k (List.mem_of_getElem? hh)
  have hs : t.slots[k]? = some t.slots[k] := List.getElem?_eq_getElem hk
  exact ⟨t.slots[k], hs, by simp [slotOf?, hh, hs]⟩

theorem InRange.signal (hrange : t.InRange) {g k : Nat} (hg : t.signals[g]? = some k) :
    ∃ s, t.slots[k]? = some s :=
  ⟨_, List.getElem?_eq_getElem (hrange.signals k (List.mem_of_getElem? hg))⟩

/-- Nothing is done to a handle or a signal that is not there. -/
theorem step_absent {a : Action} (hnone : t.subject? a = none) (hnew : a ≠ .create) :
    (t.step a).1 = t := by
  have hslot : ∀ h : Nat, t.handles[h]?.join = none → t.slotOf? h = none := by
    intro h hjoin
    rcases hhandle : t.handles[h]? with _ | _ | k
    · simp [slotOf?, hhandle]
    · simp [slotOf?, hhandle]
    · rw [hhandle] at hjoin
      exact absurd hjoin (by simp)
  cases a with
  | create => exact absurd rfl hnew
  | cloneSignal g =>
    have hg : t.signals[g]? = none := hnone
    simp only [step, hg]
  | receive g =>
    have hg : t.signals[g]? = none := hnone
    simp only [step, hg, Option.bind_none]
  | _ => simp only [step, hslot _ hnone]

/-- **Every action is a move.** -/
theorem step_move (h : t.InRange) (a : Action) :
    Move t (t.subject? a) (a.use?.map (·, (t.step a).2.said?)) (t.step a).1 := by
  by_cases hnew : a = .create
  · subst hnew
    exact .create
  rcases hsubject : t.subject? a with _ | k
  · rw [step_absent hsubject hnew]
    exact .absent _
  cases a with
  | create => exact absurd rfl hnew
  | clone handle =>
    have hh : t.handles[handle]? = some (some k) := Option.join_eq_some_iff.mp hsubject
    obtain ⟨s, hs, hof⟩ := h.handle hh
    simp only [step, hof]
    exact .clone k s hs (List.mem_of_getElem? hh)
  | drop handle =>
    have hh : t.handles[handle]? = some (some k) := Option.join_eq_some_iff.mp hsubject
    obtain ⟨s, hs, hof⟩ := h.handle hh
    simp only [step, hof]
    exact .drop k s handle hs hh
  | trigger handle =>
    obtain ⟨s, hs, hof⟩ := h.handle (Option.join_eq_some_iff.mp hsubject)
    simp only [step, hof]
    exact .ask k s .trigger hs rfl
  | isTriggered handle =>
    obtain ⟨s, hs, hof⟩ := h.handle (Option.join_eq_some_iff.mp hsubject)
    simp only [step, hof]
    have hmove : Move t _ _ _ := .ask k s .look hs rfl
    rwa [show (s.use .look).1 = s from rfl, setSlot_self hs] at hmove
  | subscribe handle =>
    obtain ⟨s, hs, hof⟩ := h.handle (Option.join_eq_some_iff.mp hsubject)
    simp only [step, hof]
    exact .watch k (List.getElem?_eq_some_iff.mp hs).1
  | cloneSignal signal =>
    have hsignal : t.signals[signal]? = some k := hsubject
    simp only [step, hsignal]
    exact .watch k (h.signals k (List.mem_of_getElem? hsignal))
  | receive signal =>
    have hsignal : t.signals[signal]? = some k := hsubject
    obtain ⟨s, hs⟩ := h.signal hsignal
    simp only [step, hsignal, Option.bind_some, hs]
    have hmove : Move t _ _ _ := .ask k s .receive hs rfl
    rwa [show (s.use .receive).1 = s from rfl, setSlot_self hs] at hmove

/-! ### Each on its own -/

/-- Each slot is as if alone: it is what its own uses made of it, and told what it tells alone. -/
structure Alone (slots : List Slot) (ds : List Deed) : Prop where
  state : ∀ k s, slots[k]? = some s → s = Slot.new.after ((toldOn k ds).map (·.1))
  told : ∀ k, toldOn k ds = Slot.new.tell ((toldOn k ds).map (·.1))
  unused : ∀ k, slots.length ≤ k → toldOn k ds = []

variable {slots : List Slot} {ds : List Deed} {d : Deed} {k : Nat} {s : Slot}

theorem toldOn_concat (k : Nat) (ds : List Deed) (d : Deed) :
    toldOn k (ds ++ [d]) = toldOn k ds ++ (d.on k).toList := by
  rw [toldOn_append]
  cases h : d.on k <;> simp [toldOn, h]

theorem Alone.idle (h : Alone slots ds) (hon : ∀ k, d.on k = none) : Alone slots (ds ++ [d]) := by
  have hsame : ∀ k, toldOn k (ds ++ [d]) = toldOn k ds := fun k => by
    rw [toldOn_concat, hon, Option.toList_none, List.append_nil]
  constructor
  · simpa only [hsame] using h.state
  · simpa only [hsame] using h.told
  · simpa only [hsame] using h.unused

theorem Alone.create (h : Alone slots ds) : Alone (slots ++ [Slot.new]) ds := by
  refine ⟨fun k s hs => ?_, h.told, fun k hk => h.unused k (Nat.le_of_succ_le (by simpa using hk))⟩
  rcases Nat.lt_or_ge k slots.length with hk | hk
  · rw [List.getElem?_append_left hk] at hs
    exact h.state k s hs
  · rw [List.getElem?_append_right hk] at hs
    rw [h.unused k hk, (List.mem_singleton.mp (List.mem_of_getElem? hs))]
    rfl

/-- A use of one slot is not seen by any other. -/
theorem Alone.use {u : Use} (h : Alone slots ds) (there : slots[k]? = some s)
    (hon : ∀ j, d.on j = if k = j then some (u, (s.use u).2) else none) :
    Alone (slots.set k (s.use u).1) (ds ++ [d]) := by
  have hown : toldOn k (ds ++ [d]) = toldOn k ds ++ [(u, (s.use u).2)] := by
    rw [toldOn_concat, hon, if_pos rfl, Option.toList_some]
  -- Nobody else is told of it.
  have hother : ∀ j, k ≠ j → toldOn j (ds ++ [d]) = toldOn j ds := fun j hj => by
    rw [toldOn_concat, hon, if_neg hj, Option.toList_none, List.append_nil]
  have hstate := h.state k s there
  have hk := (List.getElem?_eq_some_iff.mp there).1
  refine ⟨fun j s' hs' => ?_, fun j => ?_, fun j hj => ?_⟩
  · by_cases own : k = j
    · subst own
      rw [List.getElem?_set_self hk] at hs'
      rw [hown, List.map_append, List.map_singleton, Slot.after_concat, ← hstate]
      exact (Option.some.inj hs').symm
    · rw [List.getElem?_set_ne own] at hs'
      rw [hother j own]
      exact h.state j s' hs'
  · by_cases own : k = j
    · subst own
      rw [hown, List.map_append, List.map_singleton, Slot.tell_concat, ← h.told k, ← hstate]
    · rw [hother j own]
      exact h.told j
  · rw [List.length_set] at hj
    rw [hother j (by omega)]
    exact h.unused j hj

/-! ### Every run -/

/-- What is kept of all slots: each is as if alone, and counts the handles that refer to it. -/
structure Kept (t : SlotTable) (ds : List Deed) : Prop where
  inRange : t.InRange
  alone : Alone t.slots ds
  holders : ∀ k s, t.slots[k]? = some s → s.holders = t.handles.count (some k)

theorem kept_new : Kept new [] where
  inRange := ⟨by simp [new], by simp [new]⟩
  alone := by
    refine ⟨fun k s h => ?_, fun _ => rfl, fun _ _ => rfl⟩
    exact List.mem_singleton.mp (List.mem_of_getElem? h)
  holders k s h := by
    rcases k with _ | k
    · exact (Option.some.inj h) ▸ rfl
    · exact absurd h (by simp [new])

theorem getElem?_setSlot {s' : Slot} {r : Slot} {j : Nat} (there : t.slots[k]? = some s)
    (h : (t.setSlot k r).slots[j]? = some s') : j = k ∧ s' = r ∨ k ≠ j ∧ t.slots[j]? = some s' := by
  have hk := (List.getElem?_eq_some_iff.mp there).1
  by_cases own : k = j
  · subst own
    rw [setSlot, List.getElem?_set_self hk] at h
    exact .inl ⟨rfl, (Option.some.inj h).symm⟩
  · rw [setSlot, List.getElem?_set_ne own] at h
    exact .inr ⟨own, h⟩

section

variable {slot : Option Nat} {told : Option (Use × Option Bool)}

theorem InRange.move (h : t.InRange) (hmove : Move t slot told t') : t'.InRange := by
  obtain ⟨hhandles, hsignals⟩ := h
  cases hmove with
  | absent told => exact ⟨hhandles, hsignals⟩
  | create =>
    have hlen : (t.slots ++ [Slot.new]).length = t.slots.length + 1 := List.length_append
    refine ⟨fun k hk => ?_, fun k hk => hlen ▸ Nat.lt_succ_of_lt (hsignals k hk)⟩
    rcases List.mem_append.mp hk with hk | hk
    · exact hlen ▸ Nat.lt_succ_of_lt (hhandles k hk)
    · obtain rfl := Option.some.inj (List.mem_singleton.mp hk)
      exact hlen ▸ Nat.lt_succ_self _
  | watch k there =>
    refine ⟨hhandles, fun j hj => ?_⟩
    rcases List.mem_append.mp hj with hj | hj
    · exact hsignals j hj
    · exact List.mem_singleton.mp hj ▸ there
  | clone k s there live =>
    have hlen : (t.setSlot k (s.use .clone).1).slots.length = t.slots.length := List.length_set
    refine ⟨fun j hj => ?_, fun j hj => hlen ▸ hsignals j hj⟩
    rcases List.mem_append.mp hj with hj | hj
    · exact hlen ▸ hhandles j hj
    · exact hlen ▸ hhandles j (List.mem_singleton.mp hj ▸ live)
  | drop k s handle there live =>
    have hlen : (t.setSlot k (s.use .drop).1).slots.length = t.slots.length := List.length_set
    refine ⟨fun j hj => ?_, fun j hj => hlen ▸ hsignals j hj⟩
    rcases List.mem_or_eq_of_mem_set hj with hj | hj
    · exact hlen ▸ hhandles j hj
    · exact absurd hj (by simp)
  | ask k s u there keeps =>
    have hlen : (t.setSlot k (s.use u).1).slots.length = t.slots.length := List.length_set
    exact ⟨fun j hj => hlen ▸ hhandles j hj, fun j hj => hlen ▸ hsignals j hj⟩

theorem Alone.move (h : Alone t.slots ds) (hmove : Move t slot told t')
    (hon : ∀ k, d.on k = if slot = some k then told else none) : Alone t'.slots (ds ++ [d]) := by
  cases hmove with
  | absent told => exact h.idle (by simpa using hon)
  | create => exact (h.idle (by simpa using hon)).create
  | watch k there => exact h.idle (by simpa using hon)
  | clone k s there live => exact h.use there (by simpa [Slot.use] using hon)
  | drop k s handle there live => exact h.use there (by simpa [Slot.use] using hon)
  | ask k s u there keeps => exact h.use there (by simpa using hon)

/-- A slot counts the handles that refer to it, whatever comes and goes. -/
theorem Move.holders (hmove : Move t slot told t') (hrange : t.InRange)
    (h : ∀ k s, t.slots[k]? = some s → s.holders = t.handles.count (some k)) :
    ∀ k s, t'.slots[k]? = some s → s.holders = t'.handles.count (some k) := by
  intro j s' hs'
  cases hmove with
  | absent told => exact h j s' hs'
  | watch k there => exact h j s' hs'
  | create =>
    rw [List.count_append]
    rcases Nat.lt_or_ge j t.slots.length with hj | hj
    · rw [List.getElem?_append_left hj] at hs'
      rw [h j s' hs', List.count_singleton, if_neg (by simpa using Nat.ne_of_gt hj), Nat.add_zero]
    · -- Nothing referred to the new slot before.
      rw [List.getElem?_append_right hj] at hs'
      obtain ⟨hlt, rfl⟩ := List.getElem?_eq_some_iff.mp hs'
      obtain rfl : j = t.slots.length := by simp at hlt; omega
      have hnone : t.handles.count (some t.slots.length) = 0 :=
        List.count_eq_zero.mpr fun hmem => Nat.lt_irrefl _ (hrange.handles _ hmem)
      simp [hnone, Slot.new]
  | clone k s there live =>
    rw [List.count_append, List.count_singleton]
    rcases getElem?_setSlot there hs' with ⟨rfl, rfl⟩ | ⟨hne, hs'⟩
    · simp [Slot.use, h j s there]
    · simp [h j s' hs', hne]
  | drop k s handle there live =>
    obtain ⟨hlt, hget⟩ := List.getElem?_eq_some_iff.mp live
    rw [List.count_set hlt, hget]
    rcases getElem?_setSlot there hs' with ⟨rfl, rfl⟩ | ⟨hne, hs'⟩
    · simp [Slot.use, h j s there]
    · simp [h j s' hs', hne]
  | ask k s u there keeps =>
    -- No handle came or went.
    rcases getElem?_setSlot there hs' with ⟨rfl, rfl⟩ | ⟨-, hs'⟩
    · exact keeps.trans (h j s there)
    · exact h j s' hs'

theorem Kept.move (h : Kept t ds) (hmove : Move t slot told t')
    (hon : ∀ k, d.on k = if slot = some k then told else none) : Kept t' (ds ++ [d]) where
  inRange := h.inRange.move hmove
  alone := h.alone.move hmove hon
  holders := hmove.holders h.inRange h.holders

/-- **Every run keeps the slots apart.** -/
theorem kept_run (acts : List Action) : Kept (new.run acts).1 (new.history acts) := by
  induction acts using List.reverseRecOn with
  | nil => exact kept_new
  | append_singleton acts a ih =>
    rw [run_append, history_append]
    exact ih.move (step_move ih.inRange a) fun k => rfl

/-! ### What is promised of slots -/

/-- A move on one slot leaves every other slot, and the handles that refer to it, as they were. -/
theorem Move.frame (hmove : Move t slot told t') (hk : k < t.slots.length)
    (hother : slot ≠ some k) :
    t'.slots[k]? = t.slots[k]? ∧
      (∀ h : Nat, t.handles[h]? = some (some k) → t'.handles[h]? = some (some k)) ∧
        (some k ∉ t.handles → some k ∉ t'.handles) := by
  cases hmove with
  | absent told => exact ⟨rfl, fun _ => id, id⟩
  | create =>
    refine ⟨List.getElem?_append_left hk, fun h hh => ?_, fun hnone hmem => ?_⟩
    · exact List.getElem?_append_left (List.getElem?_eq_some_iff.mp hh).1 ▸ hh
    · rcases List.mem_append.mp hmem with hmem | hmem
      · exact hnone hmem
      · exact Nat.ne_of_lt hk (Option.some.inj (List.mem_singleton.mp hmem))
  | watch j there => exact ⟨rfl, fun _ => id, id⟩
  | clone j s there live =>
    have hne : j ≠ k := fun h => hother (h ▸ rfl)
    refine ⟨List.getElem?_set_ne hne, fun h hh => ?_, fun hnone hmem => ?_⟩
    · exact List.getElem?_append_left (List.getElem?_eq_some_iff.mp hh).1 ▸ hh
    · rcases List.mem_append.mp hmem with hmem | hmem
      · exact hnone hmem
      · exact hne (Option.some.inj (List.mem_singleton.mp hmem)).symm
  | drop j s handle there live =>
    have hne : j ≠ k := fun h => hother (h ▸ rfl)
    refine ⟨List.getElem?_set_ne hne, fun h hh => ?_, fun hnone hmem => ?_⟩
    · have hhandle : handle ≠ h := by
        rintro rfl
        rw [live] at hh
        exact hne (Option.some.inj (Option.some.inj hh))
      exact (List.getElem?_set_ne hhandle).trans hh
    · rcases List.mem_or_eq_of_mem_set hmem with hmem | hmem
      · exact hnone hmem
      · exact absurd hmem (by simp)
  | ask j s u there keeps =>
    have hne : j ≠ k := fun h => hother (h ▸ rfl)
    exact ⟨List.getElem?_set_ne hne, fun _ => id, id⟩

theorem Move.grows (hmove : Move t slot told t') :
    t.slots.length ≤ t'.slots.length ∧ t.signals <+: t'.signals := by
  cases hmove with
  | create => exact ⟨by simp, List.prefix_rfl⟩
  | watch k there => exact ⟨Nat.le_refl _, List.prefix_append ..⟩
  | _ => exact ⟨by simp [setSlot], List.prefix_rfl⟩

/-- A slot that no handle refers to is never referred to again. -/
theorem Move.gone (hmove : Move t slot told t') (hk : k < t.slots.length)
    (hgone : some k ∉ t.handles) :
    some k ∉ t'.handles := by
  by_cases hother : slot = some k
  · subst hother
    cases hmove with
    | watch k there => exact hgone
    | clone k s there live => exact absurd live hgone
    | drop k s handle there live => exact absurd (List.mem_of_getElem? live) hgone
    | ask k s u there keeps => exact hgone
  · exact (hmove.frame hk hother).2.2 hgone

end

/-- What happens from a reachable table on takes nothing away that matters to those who wait. -/
theorem Kept.later (h : Kept t ds) (more : List Action) :
    Kept (t.run more).1 (ds ++ t.history more) ∧ t.signals <+: (t.run more).1.signals ∧
      ∀ k < t.slots.length, some k ∉ t.handles → some k ∉ (t.run more).1.handles := by
  induction more generalizing t ds with
  | nil => exact ⟨by simpa [run, history] using h, List.prefix_rfl, fun _ _ => id⟩
  | cons a more ih =>
    have hmove := step_move h.inRange a
    obtain ⟨hkept, hsignals, hgone⟩ := ih (h.move (d := t.deed a) hmove fun _ => rfl)
    refine ⟨?_, hmove.grows.2.trans hsignals, fun k hk hnone => ?_⟩
    · simpa [run, history] using hkept
    · exact hgone k (Nat.lt_of_lt_of_le hk hmove.grows.1) (hmove.gone hk hnone)

theorem Kept.triggered (h : Kept t ds) (hs : t.slots[k]? = some s) :
    s.triggered = decide (settersOf k ds ≠ []) := by
  have hset := (Slot.setters_tell ((toldOn k ds).map (·.1))).2
  rw [← h.alone.told k, ← h.alone.state k s hs] at hset
  exact Bool.eq_iff_iff.mpr (hset.trans decide_eq_true_iff.symm)

theorem Kept.ready (h : Kept t ds) (hs : t.slots[k]? = some s) :
    s.ready = decide (settersOf k ds ≠ [] ∨ some k ∉ t.handles) := by
  have hnobody : s.holders = 0 ↔ some k ∉ t.handles := by
    rw [h.holders k s hs]
    exact List.count_eq_zero
  rw [Slot.ready, h.triggered hs, Bool.decide_or]
  congr 1
  rw [← decide_eq_decide.mpr hnobody]
  rfl

theorem Kept.firstWins (h : Kept t ds) (k : Nat) : FirstWins (settersOf k ds) := by
  rw [settersOf, h.alone.told k]
  exact (Slot.setters_tell _).1

/-- What is promised of slots, handles and signals after any actions on any of them. -/
structure Protocol (acts : List Action) (t : SlotTable) (ds : List Deed) : Prop where
  /-- What was done is what was told, action by action. -/
  told : ds.map (·.action) = acts ∧ ds.map (·.answer) = (new.run acts).2
  /-- The first call that sets a slot is told so, and no other. -/
  firstWins : ∀ k, FirstWins (settersOf k ds)
  first : ∀ h k : Nat, t.handles[h]? = some (some k) → settersOf k ds = [] →
    (t.step (.trigger h)).2 = .wasSet true
  /-- A later one changes nothing. -/
  later : ∀ h k : Nat, t.handles[h]? = some (some k) → settersOf k ds ≠ [] →
    t.step (.trigger h) = (t, .wasSet false)
  isTriggered : ∀ h k : Nat, t.handles[h]? = some (some k) →
    t.step (.isTriggered h) = (t, .triggered (settersOf k ds ≠ []))
  /-- A signal goes on once its slot is set, or no handle of it is left. -/
  receive : ∀ g k : Nat, t.signals[g]? = some k →
    t.step (.receive g) = (t, .ready (settersOf k ds ≠ [] ∨ some k ∉ t.handles))
  /-- A new signal is one of the slot of its handle, or of the slot of the signal it copies. -/
  subscribe : ∀ h k : Nat, t.handles[h]? = some (some k) →
    (t.step (.subscribe h)).1.signals = t.signals ++ [k]
  cloneSignal : ∀ g k : Nat, t.signals[g]? = some k →
    (t.step (.cloneSignal g)).1.signals = t.signals ++ [k]
  /-- A signal stays one of its slot; and once it goes on, it and every other signal of the
  slot do, however old or new. -/
  lasts : ∀ more, t.signals <+: (t.run more).1.signals ∧
    ∀ g g' k : Nat, t.signals[g]? = some k → (t.run more).1.signals[g']? = some k →
      (t.step (.receive g)).2 = .ready true → ((t.run more).1.step (.receive g')).2 = .ready true
  /-- A slot is told what it is told alone, and is what it is alone. -/
  alone : Alone t.slots ds
  /-- An action leaves every other slot, and the handles that refer to it, as they were. -/
  apart : ∀ a k, k < t.slots.length → t.subject? a ≠ some k →
    (t.step a).1.slots[k]? = t.slots[k]? ∧
      (∀ h : Nat, t.handles[h]? = some (some k) → (t.step a).1.handles[h]? = some (some k)) ∧
        (some k ∉ t.handles → some k ∉ (t.step a).1.handles)

theorem actions_history (t : SlotTable) (acts : List Action) :
    (t.history acts).map (·.action) = acts := by
  induction acts generalizing t with
  | nil => rfl
  | cons a acts ih => exact congrArg _ (ih _)

theorem Kept.receive (h : Kept t ds) {g : Nat} (hg : t.signals[g]? = some k) :
    t.step (.receive g) = (t, .ready (settersOf k ds ≠ [] ∨ some k ∉ t.handles)) := by
  obtain ⟨s, hs⟩ := h.inRange.signal hg
  rw [step, hg, Option.bind_some, hs, ← h.ready hs]

theorem Kept.protocol {acts : List Action} (h : Kept (new.run acts).1 (new.history acts)) :
    Protocol acts (new.run acts).1 (new.history acts) where
  told := ⟨actions_history .., answers_history ..⟩
  firstWins := h.firstWins
  first handle k hh hnone := by
    obtain ⟨s, hs, hof⟩ := h.inRange.handle hh
    have hunset : s.triggered = false := by
      rw [h.triggered hs, hnone]
      rfl
    simp [step, hof, Slot.trigger, hunset]
  later handle k hh hdone := by
    obtain ⟨s, hs, hof⟩ := h.inRange.handle hh
    have hset : s.triggered = true := by
      rw [h.triggered hs]
      exact decide_eq_true hdone
    have hsame : s.trigger = (false, s) := by
      obtain ⟨triggered, holders⟩ := s
      obtain rfl : triggered = true := hset
      rfl
    simp only [step, hof, hsame, setSlot_self hs]
  isTriggered handle k hh := by
    obtain ⟨s, hs, hof⟩ := h.inRange.handle hh
    simp only [step, hof, h.triggered hs]
  receive g k := h.receive
  subscribe handle k hh := by
    obtain ⟨s, hs, hof⟩ := h.inRange.handle hh
    simp only [step, hof]
  cloneSignal g k hg := by simp only [step, hg]
  lasts more := by
    obtain ⟨hlater, hsignals, hgone⟩ := h.later more
    refine ⟨hsignals, fun g g' k hg hg' hready => ?_⟩
    rw [h.receive hg] at hready
    have hcause := of_decide_eq_true (Answer.ready.inj hready)
    rw [hlater.receive hg']
    refine congrArg Answer.ready (decide_eq_true ?_)
    -- Neither cause goes away: what was done is not undone, and nobody comes back.
    rcases hcause with hdone | hnobody
    · refine .inl fun hnil => hdone ?_
      rw [settersOf_append] at hnil
      exact (List.append_eq_nil_iff.mp hnil).1
    · exact .inr (hgone k (h.inRange.signals k (List.mem_of_getElem? hg)) hnobody)
  alone := h.alone
  apart a k hk hother := (step_move h.inRange a).frame hk hother

end SlotTable

/-! ### Coordinators -/

namespace Coordinator

/-- What calls were told that began the shutdown. -/
def winners (replies : List Reply) : List Bool :=
  replies.filterMap fun
    | .won first => some first
    | .found _ => none

/-- What is promised of a coordinator after any calls. -/
structure Once (calls : List Call) : Prop where
  /-- The first call that begins the shutdown is told so, and no other. -/
  firstWins : FirstWins (winners (running.run calls).2)
  /-- Every such call is told something. -/
  told : (winners (running.run calls).2).length = calls.count .begin
  state : (running.run calls).1 = if .begin ∈ calls then .shuttingDown else .running
  /-- What is found is the state. -/
  found : (running.run (calls ++ [.state])).2 =
    (running.run calls).2 ++ [.found (running.run calls).1]
  /-- There is no way back, whatever is called later. -/
  lasts : ∀ later, .begin ∈ calls → (running.run (calls ++ later)).1 = .shuttingDown

theorem run_append (c : Coordinator) (xs ys : List Call) :
    c.run (xs ++ ys) =
      let front := c.run xs
      let back := front.1.run ys
      (back.1, front.2 ++ back.2) := by
  induction xs generalizing c with
  | nil => rfl
  | cons x xs ih => simp [run, ih]

theorem state_run (calls : List Call) :
    (running.run calls).1 = if .begin ∈ calls then .shuttingDown else .running := by
  induction calls using List.reverseRecOn with
  | nil => rfl
  | append_singleton calls call ih =>
    rw [run_append]
    cases call <;> by_cases h : Call.begin ∈ calls <;> simp [run, step, begin, ih, h]

theorem winners_run (calls : List Call) :
    FirstWins (winners (running.run calls).2) ∧
      (winners (running.run calls).2).length = calls.count .begin := by
  induction calls using List.reverseRecOn with
  | nil => exact ⟨.inl rfl, rfl⟩
  | append_singleton calls call ih =>
    obtain ⟨hwins, hcount⟩ := ih
    rw [run_append, winners, List.filterMap_append, ← winners, List.count_append]
    cases call with
    | state => simpa [run, step] using And.intro hwins hcount
    | begin =>
      -- One who begins wins if nobody did before.
      have hfirst : (running.run calls).1.begin.1 ↔ winners (running.run calls).2 = [] := by
        rw [← List.length_eq_zero_iff, hcount, List.count_eq_zero, state_run]
        by_cases h : Call.begin ∈ calls <;> simp [begin, h]
      exact ⟨by simpa [run, step] using hwins.concat hfirst, by simpa [run, step] using hcount⟩

theorem once_run (calls : List Call) : Once calls where
  firstWins := (winners_run calls).1
  told := (winners_run calls).2
  state := state_run calls
  found := by
    rw [run_append]
    rfl
  lasts later hbegan := by
    rw [state_run, if_pos (List.mem_append_left _ hbegan)]

end Coordinator

/-- **Shutting down happens once.** Whatever is done to any slots, handles and signals, and
whatever a coordinator is called for, the first one wins, and nothing undoes it. -/
theorem shutdown_once (acts : List SlotTable.Action) (calls : List Coordinator.Call) :
    SlotTable.Protocol acts (SlotTable.new.run acts).1 (SlotTable.new.history acts) ∧
      Coordinator.Once calls :=
  ⟨(SlotTable.kept_run acts).protocol, Coordinator.once_run calls⟩

end ClusterAgent
