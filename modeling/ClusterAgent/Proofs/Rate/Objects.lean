/-
Each object on its own.

Events of many objects come mixed, and each object has a bucket that only its own
calls reach.  So an object is answered as if there were no others, and what is
counted and logged are the calls that were refused, whoever they were for.

* `Correlator.answersOf_run` — the answers of one object in a run of calls for any;
* `Correlator.mem_objects_run`, `Correlator.nodup_objects_run` — the objects tracked;
* `Correlator.notices_run` — what a run gives rise to;
* `Correlator.objects_apart` — all that is promised of a correlator, for any calls.

Design notes: the arithmetic is left open, so all of this holds in doubles as it does
in exact fractions, and under any limits.
-/
import ClusterAgent.Proofs.Rate.Flood
import ClusterAgent.Proofs.Telemetry.Counting
import Mathlib.Data.List.Dedup

namespace ClusterAgent

namespace Keyed

variable {κ β : Type} [DecidableEq κ]

theorem mem_keys_upsert {key k : κ} (change : Option β → β) (l : List (κ × β)) :
    k ∈ (upsert key change l).map (·.1) ↔ k = key ∨ k ∈ l.map (·.1) := by
  induction l with
  | nil => simp [upsert]
  | cons kv rest ih =>
    obtain ⟨k', v⟩ := kv
    rw [upsert]
    split
    · rename_i hk
      simp [hk]
    · simp only [List.map_cons, List.mem_cons, ih]
      exact or_left_comm

theorem nodup_keys_upsert (key : κ) (change : Option β → β) {l : List (κ × β)}
    (h : (l.map (·.1)).Nodup) : ((upsert key change l).map (·.1)).Nodup := by
  induction l with
  | nil => simp [upsert]
  | cons kv rest ih =>
    obtain ⟨k, v⟩ := kv
    obtain ⟨hnew, hrest⟩ := List.nodup_cons.mp h
    rw [upsert]
    split
    · exact List.nodup_cons.mpr ⟨hnew, hrest⟩
    · rename_i hk
      refine List.nodup_cons.mpr ⟨fun hmem => ?_, ih hrest⟩
      rcases (mem_keys_upsert change rest).mp hmem with rfl | hmem
      · exact hk rfl
      · exact hnew hmem

end Keyed

namespace Correlator

variable {α : Type} [TokenArithmetic α]

/-- The answers to the calls for an object, among the answers to all calls. -/
def answersOf (object : String) (calls : List (String × Instant)) (answers : List Bool) :
    List Bool :=
  ((calls.zip answers).filter fun call => call.1.1 = object).map (·.2)

/-- The objects of the calls that were refused, in the order of the calls. -/
def refusedOf (calls : List (String × Instant)) (answers : List Bool) : List String :=
  ((calls.zip answers).filter fun call => !call.2).map (·.1.1)

/-! ### One run -/

theorem length_run (c : Correlator α) (calls : List (String × Instant)) :
    (c.run calls).1.length = calls.length := by
  induction calls generalizing c with
  | nil => rfl
  | cons call calls ih => exact congrArg (· + 1) (ih _)

theorem answersOf_run (object : String) (c : Correlator α) (calls : List (String × Instant)) :
    answersOf object calls (c.run calls).1 = c.answersFor object calls := by
  induction calls generalizing c with
  | nil => rfl
  | cons call calls ih =>
    obtain ⟨o, t⟩ := call
    have hrest := ih (c.allow o t).2.1
    rw [answersFor, ← hrest]
    by_cases ho : o = object
    · simp [answersOf, run, ho]
    · simp [answersOf, run, ho]

/-- The objects that had an event. -/
def objects (c : Correlator α) : List String := c.buckets.map (·.1)

theorem mem_objects_run {object : String} (c : Correlator α) (calls : List (String × Instant)) :
    object ∈ (c.run calls).2.1.objects ↔ object ∈ c.objects ∨ object ∈ calls.map (·.1) := by
  induction calls generalizing c with
  | nil => simp [run]
  | cons call calls ih =>
    obtain ⟨o, t⟩ := call
    have hstep : object ∈ (c.allow o t).2.1.objects ↔ object = o ∨ object ∈ c.objects :=
      Keyed.mem_keys_upsert _ _
    rw [run, ih, hstep, List.map_cons, List.mem_cons, or_assoc, or_left_comm]

theorem nodup_objects_run {c : Correlator α} (h : c.objects.Nodup)
    (calls : List (String × Instant)) : (c.run calls).2.1.objects.Nodup := by
  induction calls generalizing c with
  | nil => exact h
  | cons call calls ih => exact ih (Keyed.nodup_keys_upsert _ _ h)

/-- A run gives rise to the refusals of the calls that were refused, and to nothing else. -/
theorem notices_run (c : Correlator α) (calls : List (String × Instant)) :
    (c.run calls).2.2 = (refusedOf calls (c.run calls).1).flatMap refusal := by
  induction calls generalizing c with
  | nil => rfl
  | cons call calls ih =>
    obtain ⟨o, t⟩ := call
    show (if (c.allow o t).1 then [] else refusal o) ++ ((c.allow o t).2.1.run calls).2.2 = _
    rw [ih]
    cases h : (c.allow o t).1 <;> simp [refusedOf, run, h]

/-! ### Refusals -/

theorem length_refusedOf {calls : List (String × Instant)} {answers : List Bool}
    (h : answers.length = calls.length) :
    (refusedOf calls answers).length = answers.count false := by
  have hanswers : (calls.zip answers).map (·.2) = answers := List.map_snd_zip h.le
  rw [refusedOf, List.length_map, ← List.countP_eq_length_filter, List.count]
  conv_rhs => rw [← hanswers, List.countP_map]
  exact List.countP_congr fun call _ => by cases h : call.2 <;> simp [h]

theorem measurementsOf_refusals (objects : List String) :
    measurementsOf (objects.flatMap refusal) = List.replicate objects.length .eventSuppressed := by
  induction objects with
  | nil => rfl
  | cons object objects ih =>
    rw [List.flatMap_cons, measurementsOf_append, ih]
    rfl

theorem logsOf_refusals (objects : List String) :
    logsOf (objects.flatMap refusal) = objects.map .eventSuppressed := by
  induction objects with
  | nil => rfl
  | cons object objects ih =>
    rw [List.flatMap_cons, logsOf_append, ih]
    rfl

/-! ### What is promised of a correlator -/

/-- What is promised of a new correlator that is asked for events in turn. -/
structure Apart (l : Limits α) (calls : List (String × Instant)) : Prop where
  answered : ((new l).run calls).1.length = calls.length
  /-- An object is answered as one bucket is, made full at its first call and asked at its own. -/
  own : ∀ object, answersOf object calls ((new l).run calls).1 =
    ownAnswers l none (instantsOf object calls)
  /-- Calls for others may come, go and change places. -/
  others : ∀ object calls', instantsOf object calls' = instantsOf object calls →
    answersOf object calls' ((new l).run calls').1 = answersOf object calls ((new l).run calls).1
  tracked : ((new l).run calls).2.1.tracked = (calls.map (·.1)).dedup.length
  counted : ∀ r : Registry, (r.recordAll ((new l).run calls).2.2).count (.eventsSuppressed, []) =
    r.count (.eventsSuppressed, []) + ((new l).run calls).1.count false
  /-- One log entry for each refused call, with its object. -/
  logged : logsOf ((new l).run calls).2.2 =
    (refusedOf calls ((new l).run calls).1).map .eventSuppressed
  entries : (logsOf ((new l).run calls).2.2).countP
      (·.message = "Event suppressed by rate limit") = ((new l).run calls).1.count false

theorem answersOf_new (l : Limits α) (object : String) (calls : List (String × Instant)) :
    answersOf object calls ((new l).run calls).1 = ownAnswers l none (instantsOf object calls) := by
  rw [answersOf_run, answersFor_eq]
  rfl

/-- **Objects do not touch each other.** Each is answered by a bucket of its own, and the refused
calls, whoever they were for, are those that are counted and logged. -/
theorem objects_apart (l : Limits α) (calls : List (String × Instant)) : Apart l calls := by
  have hanswered := length_run (new l) calls
  have hrefused := length_refusedOf hanswered
  have hnotices := notices_run (new l) calls
  have hlogged : logsOf ((new l).run calls).2.2 =
      (refusedOf calls ((new l).run calls).1).map .eventSuppressed := by
    rw [hnotices, logsOf_refusals]
  refine ⟨hanswered, fun object => answersOf_new l object calls, ?_, ?_, ?_, hlogged, ?_⟩
  · intro object calls' hsame
    rw [answersOf_new, answersOf_new, hsame]
  · -- The objects tracked are those of the calls, each once.
    have hnodup : ((new l).run calls).2.1.objects.Nodup :=
      nodup_objects_run (c := new l) List.nodup_nil calls
    have hperm : ((new l).run calls).2.1.objects.Perm (calls.map (·.1)).dedup := by
      rw [List.perm_ext_iff_of_nodup hnodup (List.nodup_dedup _)]
      intro object
      rw [mem_objects_run, List.mem_dedup]
      exact or_iff_right List.not_mem_nil
    rw [← hperm.length_eq, objects, List.length_map]
    rfl
  · intro r
    rw [Registry.count_recordAll, hnotices, measurementsOf_refusals, hrefused,
      List.countP_replicate]
    rfl
  · rw [hlogged, List.countP_map, ← hrefused]
    exact List.countP_eq_length.mpr fun object _ => by simp [LogEvent.message]

end Correlator

end ClusterAgent
