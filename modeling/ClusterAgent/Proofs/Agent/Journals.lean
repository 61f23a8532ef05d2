/-
What a journal tells, whoever asks and whenever.

Many clones of many journals record events and look at them in any order, and recordings
are under way meanwhile.  A journal has just the events that were recorded in it, so what
it tells at one time is the beginning of what it tells later.  The metrics count the
events of all journals, and are ahead by the recordings that are counted and not yet
appended.

* `FirstAddress`, `Journal.debugAddr_eq_some_iff` — the address a journal makes known;
* `LifecycleEvent.sum_countP_names` — every event is counted under one of the five names;
* `JournalTable.Move`, `JournalTable.step_move` — what an action can do;
* `JournalTable.Kept` — what holds of the table, its answers and the metrics,
  `JournalTable.kept_run` — and goes on to hold;
* `JournalTable.journals_consistent` — what the clones of a journal tell.
-/
import ClusterAgent.Agent.JournalTable
import ClusterAgent.Proofs.Telemetry.Counting
import Mathlib.Data.List.Perm.Basic

namespace ClusterAgent

/-! ### One journal -/

/-- The names of the steps. -/
def LifecycleEvent.names : List String :=
  ["controller_started", "debug_server_started", "shutdown_requested", "controller_stopped",
    "debug_server_stopped"]

/-- Every event has one of the names. -/
theorem LifecycleEvent.sum_countP_names (es : List LifecycleEvent) :
    (names.map fun name => es.countP (·.name = name)).sum = es.length := by
  induction es with
  | nil => rfl
  | cons e es ih =>
    -- The first event counts under its own name only.
    have hone : (names.map fun name => if e.name = name then 1 else 0).sum = 1 := by
      cases e <;> rfl
    rw [List.length_cons, ← ih, ← hone, ← List.sum_map_add]
    simp only [List.countP_cons, decide_eq_true_eq]

/-- The first start of the debug server with an address has this one. -/
def FirstAddress (a : SocketAddress) (es : List LifecycleEvent) : Prop :=
  ∃ before after, es = before ++ .debugServerStarted (some a) :: after ∧
    ∀ b, .debugServerStarted (some b) ∉ before

/-- Further events leave the first address as it is. -/
theorem FirstAddress.append {a : SocketAddress} {es : List LifecycleEvent} (h : FirstAddress a es)
    (more : List LifecycleEvent) : FirstAddress a (es ++ more) := by
  obtain ⟨before, after, rfl, hnone⟩ := h
  exact ⟨before, after ++ more, by rw [List.append_assoc, List.cons_append], hnone⟩

theorem LifecycleEvent.address?_eq_some_iff {e : LifecycleEvent} {a : SocketAddress} :
    e.address? = some a ↔ e = .debugServerStarted (some a) := by
  cases e <;> simp [address?]

theorem LifecycleEvent.address?_eq_none_iff {e : LifecycleEvent} :
    e.address? = none ↔ ∀ a, .debugServerStarted (some a) ≠ e := by
  simp only [Option.eq_none_iff_forall_ne_some, ne_eq, address?_eq_some_iff, eq_comm (a := e)]

namespace Journal

theorem debugAddr_eq_some_iff {j : Journal} {a : SocketAddress} :
    j.debugAddr = some a ↔ FirstAddress a j.events := by
  simp only [debugAddr, List.findSome?_eq_some_iff, LifecycleEvent.address?_eq_some_iff,
    LifecycleEvent.address?_eq_none_iff, FirstAddress]
  constructor
  · rintro ⟨before, e, after, hes, rfl, hnone⟩
    exact ⟨before, after, hes, fun b hb => hnone _ hb b rfl⟩
  · rintro ⟨before, after, hes, hnone⟩
    exact ⟨before, _, after, hes, rfl, fun e he b hb => hnone b (hb ▸ he)⟩

theorem count_eq_countP (j : Journal) (name : String) :
    j.count name = j.events.countP (·.name = name) := by
  rw [count, List.countP_eq_length_filter]
  rfl

end Journal

/-- The metric of the steps of a name. -/
def Registry.lifecycleEvents (r : Registry) (name : String) : Nat :=
  r.count (.lifecycleEvents, [("event", name)])

theorem Registry.lifecycleEvents_logged (r : Registry) (ns : List Notice) (e : LogEvent) :
    (r.recordAll (ns ++ [.logged e])).lifecycleEvents = (r.recordAll ns).lifecycleEvents := by
  rw [recordAll_append]
  rfl

theorem Registry.lifecycleEvents_measured (r : Registry) (ns : List Notice) (event name : String) :
    (r.recordAll (ns ++ [.measured (.lifecycle event)])).lifecycleEvents name =
      (r.recordAll ns).lifecycleEvents name + if event = name then 1 else 0 := by
  rw [recordAll_append, lifecycleEvents, count_recordAll]
  simp [measurementsOf, Notice.measurement?, Measurement.counted, lifecycleEvents,
    eq_comm (a := name)]

namespace JournalTable

/-! ### One action -/

/-- The recording that an answer says has begun, -/
def Answer.began? : Answer → Option Recording
  | .began r => some r
  | _ => none

/-- and the one that it says has ended. -/
def Answer.recorded? : Answer → Option Recording
  | .recorded r => some r
  | _ => none

/-- The recordings that have begun, -/
def begun (told : List Answer) : List Recording := told.filterMap Answer.began?

/-- and those that have ended. -/
def ended (told : List Answer) : List Recording := told.filterMap Answer.recorded?

/-- The events that were recorded in a journal, by its number. -/
def recordedIn (k : Nat) (told : List Answer) : List LifecycleEvent :=
  ((ended told).filter (·.journal = k)).map (·.event)

/-- What an action does to the table, what it tells and what it notes. -/
inductive Move (t : JournalTable) : JournalTable × Answer × List Notice → Prop
  /-- Nothing changes, and no recording begins or ends. -/
  | still (answer) (hbegan : answer.began? = none) (hrecorded : answer.recorded? = none) :
    Move t (t, answer, [])
  /-- There is one more journal with one clone. -/
  | create :
    Move t ({ t with journals := t.journals ++ [Journal.empty]
                     clones := t.clones ++ [some t.journals.length] },
      .clones (t.clones.length + 1), [])
  /-- A journal has one more clone. -/
  | clone (k) (hk : k < t.journals.length) :
    Move t ({ t with clones := t.clones ++ [some k] }, .clones (t.clones.length + 1), [])
  | drop (c) : Move t ({ t with clones := t.clones.set c none }, .dropped c, [])
  | log (r) (hr : r.journal < t.journals.length) :
    Move t ({ t with logged := t.logged ++ [r] }, .began r, [.logged (.lifecycleStep r.event.name)])
  | measure (i r) (hi : t.logged[i]? = some r) :
    Move t ({ t with logged := t.logged.eraseIdx i, counted := t.counted ++ [r] }, .measured r,
      [.measured (.lifecycle r.event.name)])
  | append (i r) (hi : t.counted[i]? = some r) :
    Move t ({ t with journals := t.journals.modify r.journal fun j => (j.record r.event).1
                     counted := t.counted.eraseIdx i }, .recorded r, [])

variable {t : JournalTable}

theorem journalOf?_eq_some_iff {c k : Nat} {j : Journal} :
    t.journalOf? c = some (k, j) ↔ t.clones[c]? = some (some k) ∧ t.journals[k]? = some j := by
  simp only [journalOf?, Option.bind_eq_bind, Option.bind_eq_some_iff, Option.pure_def,
    Option.some.injEq, Prod.mk.injEq]
  constructor
  · rintro ⟨_, hc, k', rfl, j', hj, rfl, rfl⟩
    exact ⟨hc, hj⟩
  · rintro ⟨hc, hj⟩
    exact ⟨_, hc, k, rfl, j, hj, rfl, rfl⟩

/-- What is done with the journal of a clone is a move if it is for each journal. -/
theorem move_withJournal {c : Nat} {f : Nat → Journal → JournalTable × Answer × List Notice}
    (h : ∀ k j, k < t.journals.length → Move t (f k j)) : Move t (t.withJournal c f) := by
  unfold withJournal
  split
  · rename_i k j hj
    obtain ⟨hk, -⟩ := List.getElem?_eq_some_iff.mp (journalOf?_eq_some_iff.mp hj).2
    exact h k j hk
  · exact .still _ rfl rfl

theorem step_move (t : JournalTable) (a : Action) : Move t (t.step a) := by
  cases a with
  | create => simpa [step] using Move.create (t := t)
  | clone c => exact move_withJournal fun k j hk => by simpa using Move.clone k hk
  | drop c => exact move_withJournal fun _ _ _ => .drop c
  | log c e => exact move_withJournal fun k _ hk => .log ⟨k, e⟩ hk
  | measure i =>
    rw [step]
    split
    · rename_i r hi
      exact .measure i r hi
    · exact .still _ rfl rfl
  | append i =>
    rw [step]
    split
    · rename_i r hi
      exact .append i r hi
    · exact .still _ rfl rfl
  | snapshot c => exact move_withJournal fun _ _ _ => .still _ rfl rfl
  | debugAddr c => exact move_withJournal fun _ _ _ => .still _ rfl rfl
  | count c name => exact move_withJournal fun _ _ _ => .still _ rfl rfl

/-! ### What is kept -/

/-- What holds of the table after some actions. `told` is what they told and `ns` what they
noted, and `r` is what the metrics were before. -/
structure Kept (r : Registry) (t : JournalTable) (told : List Answer) (ns : List Notice) :
    Prop where
  clones_lt : ∀ k, some k ∈ t.clones → k < t.journals.length
  recordings_lt : ∀ x, x ∈ t.logged ∨ x ∈ t.counted → x.journal < t.journals.length
  /-- A journal has the events that were recorded in it. -/
  events : ∀ k, recordedIn k told = (t.journals[k]?.getD Journal.empty).events
  /-- A recording that has begun has ended or is under way. -/
  recordings : ∀ x,
    (begun told).count x = (ended told).count x + t.logged.count x + t.counted.count x
  /-- The metrics count what is in the journals and what is about to be. -/
  metric : ∀ name, (r.recordAll ns).lifecycleEvents name =
    r.lifecycleEvents name + (t.journals.map (·.count name)).sum +
      t.counted.countP (·.event.name = name)

variable {r : Registry} {told : List Answer} {ns : List Notice}

theorem kept_new (r : Registry) : Kept r new [] [] where
  clones_lt k hk := by
    obtain rfl : k = 0 := by simpa [new] using hk
    exact Nat.one_pos
  recordings_lt x hx := by simp [new] at hx
  events k := by rcases k with _ | k <;> simp [recordedIn, ended, new, Journal.empty]
  recordings x := rfl
  metric name := by simp [new, Registry.recordAll, measurementsOf, Journal.empty, Journal.count]

theorem begun_concat (told : List Answer) (answer : Answer) :
    begun (told ++ [answer]) = begun told ++ answer.began?.toList := by
  rw [begun, List.filterMap_append, begun]
  rcases h : answer.began? <;> simp [h]

theorem ended_concat (told : List Answer) (answer : Answer) :
    ended (told ++ [answer]) = ended told ++ answer.recorded?.toList := by
  rw [ended, List.filterMap_append, ended]
  rcases h : answer.recorded? <;> simp [h]

theorem recordedIn_concat (k : Nat) (told : List Answer) (answer : Answer) :
    recordedIn k (told ++ [answer]) = recordedIn k told ++
      (answer.recorded?.toList.filter (·.journal = k)).map (·.event) := by
  simp [recordedIn, ended_concat]

/-- What is taken out of a list and the rest of it are the list. -/
theorem perm_cons_eraseIdx {α : Type} {l : List α} {i : Nat} {x : α} (h : l[i]? = some x) :
    (x :: l.eraseIdx i).Perm l := by
  obtain ⟨hi, rfl⟩ := List.getElem?_eq_some_iff.mp h
  exact List.getElem_cons_eraseIdx_perm hi

/-- An event more in one of the journals is an event more in all of them. -/
theorem sum_count_record {js : List Journal} {k : Nat} (hk : k < js.length) (e : LifecycleEvent)
    (name : String) :
    ((js.modify k fun j => (j.record e).1).map (·.count name)).sum =
      (js.map (·.count name)).sum + if e.name = name then 1 else 0 := by
  induction js generalizing k with
  | nil => simp at hk
  | cons j js ih =>
    rcases k with _ | k
    · rw [List.modify_zero_cons, List.map_cons, List.map_cons, List.sum_cons, List.sum_cons,
        Journal.count_record]
      omega
    · rw [List.modify_succ_cons, List.map_cons, List.map_cons, List.sum_cons, List.sum_cons,
        ih (Nat.lt_of_succ_lt_succ hk), Nat.add_assoc]

/-- An answer that tells of no recording keeps everything. -/
theorem Kept.answered (h : Kept r t told ns) {answer : Answer} (hbegan : answer.began? = none)
    (hrecorded : answer.recorded? = none) : Kept r t (told ++ [answer]) ns where
  clones_lt := h.clones_lt
  recordings_lt := h.recordings_lt
  events k := by simpa [recordedIn_concat, hrecorded] using h.events k
  recordings x := by simpa [begun_concat, ended_concat, hbegan, hrecorded] using h.recordings x
  metric := h.metric

/-- A new journal has no events, and none were recorded in it. -/
theorem getD_append_empty (js : List Journal) (k : Nat) :
    (js ++ [Journal.empty])[k]?.getD Journal.empty = js[k]?.getD Journal.empty := by
  rcases Nat.lt_trichotomy k js.length with hk | rfl | hk
  · rw [List.getElem?_append_left hk]
  · rw [List.getElem?_concat_length, List.getElem?_eq_none (Nat.le_refl _)]
    rfl
  · have hle : (js ++ [Journal.empty]).length ≤ k := by
      rw [List.length_append]
      exact hk
    rw [List.getElem?_eq_none hle, List.getElem?_eq_none (Nat.le_of_lt hk)]

theorem Kept.create (h : Kept r t told ns) :
    Kept r { t with journals := t.journals ++ [Journal.empty]
                    clones := t.clones ++ [some t.journals.length] } told ns where
  clones_lt k hk := by
    rw [List.length_append]
    rcases List.mem_append.mp hk with hk | hk
    · exact Nat.lt_succ_of_lt (h.clones_lt k hk)
    · obtain rfl : k = t.journals.length := by simpa using hk
      exact Nat.lt_succ_self _
  recordings_lt x hx := by
    rw [List.length_append]
    exact Nat.lt_succ_of_lt (h.recordings_lt x hx)
  events k := by rw [h.events, getD_append_empty]
  recordings := h.recordings
  metric name := by
    rw [h.metric, List.map_append, List.sum_append]
    rfl

theorem Kept.log (h : Kept r t told ns) {x : Recording} (hx : x.journal < t.journals.length) :
    Kept r { t with logged := t.logged ++ [x] } (told ++ [.began x])
      (ns ++ [.logged (.lifecycleStep x.event.name)]) where
  clones_lt := h.clones_lt
  recordings_lt y hy := by
    rcases hy with hy | hy
    · rcases List.mem_append.mp hy with hy | hy
      · exact h.recordings_lt y (.inl hy)
      · exact List.mem_singleton.mp hy ▸ hx
    · exact h.recordings_lt y (.inr hy)
  events k := by simpa [recordedIn_concat, Answer.recorded?] using h.events k
  recordings y := by
    show _ = _ + (t.logged ++ [x]).count y + t.counted.count y
    simp only [begun_concat, ended_concat, Answer.began?, Answer.recorded?, Option.toList_none,
      Option.toList_some, List.append_nil, List.count_append, h.recordings]
    omega
  metric name := by rw [Registry.lifecycleEvents_logged, h.metric]

/-- A recording that is counted waits to be appended, and the metrics have it. -/
theorem Kept.measure (h : Kept r t told ns) {i : Nat} {x : Recording}
    (hi : t.logged[i]? = some x) :
    Kept r { t with logged := t.logged.eraseIdx i, counted := t.counted ++ [x] } told
      (ns ++ [.measured (.lifecycle x.event.name)]) where
  clones_lt := h.clones_lt
  recordings_lt y hy := by
    -- Whatever is under way now was under way before, if not as far.
    refine h.recordings_lt y ?_
    rcases hy with hy | hy
    · exact .inl (List.mem_of_mem_eraseIdx hy)
    · rcases List.mem_append.mp hy with hy | hy
      · exact .inr hy
      · obtain rfl := List.mem_singleton.mp hy
        exact .inl (List.mem_of_getElem? hi)
  events := h.events
  recordings y := by
    show _ = _ + (t.logged.eraseIdx i).count y + (t.counted ++ [x]).count y
    rw [h.recordings, ← (perm_cons_eraseIdx hi).count_eq, List.count_cons, List.count_append,
      List.count_singleton]
    omega
  metric name := by
    rw [Registry.lifecycleEvents_measured, h.metric, List.countP_append, List.countP_singleton,
      Nat.add_assoc]
    simp

/-- The journal of a recording was there when it began, and journals stay. -/
theorem Kept.counted_lt (h : Kept r t told ns) {i : Nat} {x : Recording}
    (hi : t.counted[i]? = some x) : x.journal < t.journals.length :=
  h.recordings_lt x (.inr (List.mem_of_getElem? hi))

/-- What is appended is in its journal from then on. -/
theorem getD_modify_record (js : List Journal) {x : Recording} (hx : x.journal < js.length)
    (k : Nat) :
    ((js.modify x.journal fun j => (j.record x.event).1)[k]?.getD Journal.empty).events =
      (js[k]?.getD Journal.empty).events ++ if x.journal = k then [x.event] else [] := by
  by_cases hk : x.journal = k
  · subst hk
    rw [List.getElem?_modify_eq, List.getElem?_eq_getElem hx, if_pos rfl]
    rfl
  · rw [List.getElem?_modify_ne _ _ hk, if_neg hk, List.append_nil]

theorem Kept.append (h : Kept r t told ns) {i : Nat} {x : Recording}
    (hi : t.counted[i]? = some x) :
    Kept r { t with journals := t.journals.modify x.journal fun j => (j.record x.event).1
                    counted := t.counted.eraseIdx i } (told ++ [.recorded x]) ns where
  clones_lt k hk := by
    rw [List.length_modify]
    exact h.clones_lt k hk
  recordings_lt y hy := by
    rw [List.length_modify]
    exact h.recordings_lt y (hy.imp_right List.mem_of_mem_eraseIdx)
  events k := by
    rw [recordedIn_concat, h.events, getD_modify_record _ (h.counted_lt hi)]
    by_cases hk : x.journal = k <;> simp [Answer.recorded?, hk]
  recordings y := by
    show _ = _ + t.logged.count y + (t.counted.eraseIdx i).count y
    have hbegun := h.recordings y
    rw [← (perm_cons_eraseIdx hi).count_eq, List.count_cons] at hbegun
    simp only [begun_concat, ended_concat, Answer.began?, Answer.recorded?, Option.toList_none,
      Option.toList_some, List.append_nil, List.count_append, List.count_singleton, hbegun]
    omega
  metric name := by
    rw [h.metric, sum_count_record (h.counted_lt hi), ← (perm_cons_eraseIdx hi).countP_eq,
      List.countP_cons]
    simp only [decide_eq_true_eq]
    omega

/-- A move keeps everything. -/
theorem Kept.move (h : Kept r t told ns) {out : JournalTable × Answer × List Notice}
    (hmove : Move t out) :
    Kept r out.1 (told ++ [out.2.1]) (ns ++ out.2.2) := by
  cases hmove with
  | still _ hbegan hrecorded =>
    rw [List.append_nil]
    exact h.answered hbegan hrecorded
  | create =>
    rw [List.append_nil]
    exact h.create.answered rfl rfl
  | clone k hk =>
    rw [List.append_nil]
    refine { h.answered rfl rfl with clones_lt := fun k' hk' => ?_ }
    rcases List.mem_append.mp hk' with hk' | hk'
    · exact h.clones_lt k' hk'
    · obtain rfl : k' = k := by simpa using hk'
      exact hk
  | drop c =>
    rw [List.append_nil]
    refine { h.answered rfl rfl with clones_lt := fun k hk => h.clones_lt k ?_ }
    exact (List.mem_or_eq_of_mem_set hk).resolve_right (by simp)
  | log x hx => exact h.log hx
  | measure i x hi => exact (h.measure hi).answered rfl rfl
  | append i x hi =>
    rw [List.append_nil]
    exact h.append hi

theorem kept_run (h : Kept r t told ns) (acts : List Action) :
    Kept r (t.run acts).1 (told ++ (t.run acts).2.1) (ns ++ (t.run acts).2.2) := by
  induction acts generalizing t told ns with
  | nil => simpa [run] using h
  | cons a acts ih => simpa [run] using ih (h.move (step_move t a))

/-! ### Clones -/

/-- A clone stays with its journal until it is dropped, and then it stays dropped. -/
theorem Move.clones {out : JournalTable × Answer × List Notice} (hmove : Move t out)
    {c : Nat} {o : Option Nat} (hc : t.clones[c]? = some o) :
    out.1.clones[c]? = some o ∨ out.1.clones[c]? = some none := by
  obtain ⟨hlt, -⟩ := List.getElem?_eq_some_iff.mp hc
  cases hmove with
  | create | clone => exact .inl ((List.getElem?_append_left hlt).trans hc)
  | drop d =>
    rcases eq_or_ne d c with rfl | hne
    · exact .inr (List.getElem?_set_self hlt)
    · exact .inl ((List.getElem?_set_ne hne).trans hc)
  | _ => exact .inl hc

theorem clones_run (acts : List Action) {c : Nat} {o : Option Nat} (hc : t.clones[c]? = some o) :
    (t.run acts).1.clones[c]? = some o ∨ (t.run acts).1.clones[c]? = some none := by
  induction acts generalizing t o with
  | nil => exact .inl hc
  | cons a acts ih =>
    rcases (step_move t a).clones hc with hc | hc
    · exact ih hc
    · exact .inr ((ih hc).elim id id)

theorem length_journals_step {a : Action} (ha : a ≠ .create) :
    (t.step a).1.journals.length = t.journals.length := by
  cases a with
  | create => exact absurd rfl ha
  | measure i | append i =>
    rw [step]
    split <;> simp
  | _ =>
    rw [step, withJournal]
    split <;> rfl

/-- Who makes no new journal works on those that there are. -/
theorem length_journals_run {acts : List Action} (hacts : .create ∉ acts) :
    (t.run acts).1.journals.length = t.journals.length := by
  induction acts generalizing t with
  | nil => rfl
  | cons a acts ih =>
    rw [List.mem_cons, not_or] at hacts
    exact (ih hacts.2).trans (length_journals_step (Ne.symm hacts.1))

/-! ### What clones tell -/

/-- What a clone tells of a journal with these events. -/
structure Tells (t : JournalTable) (c : Nat) (es : List LifecycleEvent) : Prop where
  snapshot : t.tell (.snapshot c) = .events es
  debugAddr : ∃ a, t.tell (.debugAddr c) = .address a ∧ ∀ b, a = some b ↔ FirstAddress b es
  count : ∀ name, t.tell (.count c name) = .count (es.countP (·.name = name))

theorem tells_of_journalOf? {c k : Nat} {j : Journal} (h : t.journalOf? c = some (k, j)) :
    t.Tells c j.events where
  snapshot := by rw [tell, step, withJournal_of_journalOf? h]
  debugAddr := by
    refine ⟨j.debugAddr, ?_, fun b => Journal.debugAddr_eq_some_iff⟩
    rw [tell, step, withJournal_of_journalOf? h]
  count name := by rw [tell, step, withJournal_of_journalOf? h, Journal.count_eq_countP]

/-- A clone tells of the events that were recorded in its journal. -/
theorem Kept.tells (h : Kept r t told ns) {c k : Nat} (hc : t.clones[c]? = some (some k)) :
    t.Tells c (recordedIn k told) := by
  have hk : k < t.journals.length := h.clones_lt k (List.mem_of_getElem? hc)
  rw [h.events, List.getElem?_eq_getElem hk, Option.getD_some]
  exact tells_of_journalOf? (journalOf?_eq_some_iff.mpr ⟨hc, List.getElem?_eq_getElem hk⟩)

/-- The first address is the first of a longer list as well. -/
theorem Tells.debugAddr_append {t t' : JournalTable} {c c' : Nat} {es more : List LifecycleEvent}
    (h : t.Tells c es) (h' : t'.Tells c' (es ++ more)) {a : SocketAddress}
    (ha : t.tell (.debugAddr c) = .address (some a)) :
    t'.tell (.debugAddr c') = .address (some a) := by
  obtain ⟨_, htell, hfirst⟩ := h.debugAddr
  obtain ⟨a', htell', hfirst'⟩ := h'.debugAddr
  obtain rfl : _ = some a := Answer.address.inj (htell.symm.trans ha)
  have hsame : a' = some a := (hfirst' a).mpr (((hfirst a).mp rfl).append more)
  rw [htell', hsame]

/-- **A journal is consistent.** Whatever is done with any clones of any journals, each
recording that has begun has ended or is under way, and the metrics count the events of all
journals and those that are about to be appended.  Every clone tells of the events that were
recorded in its journal: the five counts add up to all of them, and the address of the debug
server is the first that was recorded.  Every clone tells later, after more was done, of the
same events and further ones, and of the same address once there is one.  If there is one
journal only, its counts are the metrics, less what is about to be appended. -/
theorem journals_consistent (r : Registry) (acts more : List Action) :
    let t := (new.run acts).1
    let told := (new.run acts).2.1
    let metric := (r.recordAll (new.run acts).2.2).lifecycleEvents
    let later := (t.run more).1
    (∀ x, (begun told).count x = (ended told).count x + t.logged.count x + t.counted.count x) ∧
    (∀ name, metric name = r.lifecycleEvents name + (t.journals.map (·.count name)).sum +
      t.counted.countP (·.event.name = name)) ∧
    ∀ c k, t.clones[c]? = some (some k) →
      t.Tells c (recordedIn k told) ∧
      (LifecycleEvent.names.map fun name =>
        (recordedIn k told).countP (·.name = name)).sum = (recordedIn k told).length ∧
      (.create ∉ acts → ∀ name, metric name = r.lifecycleEvents name +
        (recordedIn k told).countP (·.name = name) + t.counted.countP (·.event.name = name)) ∧
      (later.clones[c]? = some (some k) ∨ later.clones[c]? = some none) ∧
      ∀ c', later.clones[c']? = some (some k) →
        (∃ es, later.Tells c' (recordedIn k told ++ es)) ∧
        ∀ a, t.tell (.debugAddr c) = .address (some a) →
          later.tell (.debugAddr c') = .address (some a) := by
  intro t told metric later
  have hkept : Kept r t told (new.run acts).2.2 := kept_run (kept_new r) acts
  have hlater := kept_run hkept more
  refine ⟨hkept.recordings, hkept.metric, fun c k hc => ?_⟩
  have htells := hkept.tells hc
  refine ⟨htells, LifecycleEvent.sum_countP_names _, fun hacts name => ?_, clones_run more hc,
    fun c' hc' => ?_⟩
  · -- There is one journal from the first to the last action, so the sum has one term.
    have hk : k < t.journals.length := hkept.clones_lt k (List.mem_of_getElem? hc)
    obtain ⟨j, hj⟩ := List.length_eq_one_iff.mp (length_journals_run (t := new) hacts)
    change t.journals = [j] at hj
    obtain rfl : k = 0 := by simpa [hj] using hk
    rw [← Journal.count_eq_countP ⟨_⟩, hkept.events]
    simpa [hj] using hkept.metric name
  · -- What was recorded until later is what was recorded until now, and then more.
    have htells' := hlater.tells hc'
    have happend : recordedIn k (told ++ (t.run more).2.1) =
        recordedIn k told ++ recordedIn k (t.run more).2.1 := by
      simp [recordedIn, ended]
    rw [happend] at htells'
    exact ⟨⟨_, htells'⟩, fun a ha => htells.debugAddr_append htells' ha⟩

/-- Of two recordings at the same time, the one that is appended first is first in the journal,
whichever was logged and counted first. -/
example (a : SocketAddress) :
    (new.run [.clone 0, .log 0 (.debugServerStarted none), .log 1 (.debugServerStarted (some a)),
      .measure 0, .measure 0, .append 1, .debugAddr 0, .append 0, .snapshot 0, .debugAddr 1,
      .count 0 "debug_server_started"]).2.1.drop 5 =
    [.recorded ⟨0, .debugServerStarted (some a)⟩, .address (some a),
      .recorded ⟨0, .debugServerStarted none⟩,
      .events [.debugServerStarted (some a), .debugServerStarted none], .address (some a),
      .count 2] := by
  rfl

end JournalTable

end ClusterAgent
