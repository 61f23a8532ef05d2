/-
A controller that stopped is quiet.

To stop a controller is to call its tasks off and to wait for all of them.  The call may
find the discovery task in the middle of an inquiry, waiting for a token or for an answer;
then the request is dropped together with the inquiry.

* `Refreshing.Sound` — a request is under way only while the discovery task awaits it;
* `Crew.Accounted` — which tasks were joined, and how many of them panicked;
* `Crew.quiet_after_stop` — once the stop has returned, all tasks are over, nothing that a
  task could do does anything, and the outcome tells how many of them panicked;
* `Crew.stop_returns` — wherever the tasks are, some steps of theirs make the stop return.

Design notes: a task that is over stays as it is, so what was found when it was joined
still holds when the stop returns.
-/
import ClusterAgent.Proofs.Controller.Generations

namespace ClusterAgent

/-! ### Tasks that are over -/

namespace Task

variable {σ : Type} {t : Task σ}

theorem isSome_fate? : t.fate?.isSome = !t.isRunning := by cases t <;> rfl

theorem isRunning_of_fate? {f : Option TaskPanic} (h : t.fate? = some f) : t.isRunning = false := by
  cases t with
  | running state => cases h
  | ended => rfl
  | panicked cause => rfl

end Task

namespace Refreshing

variable {α : Type} {r : Refreshing α}

/-- A discovery task that is over does nothing. -/
theorem step_of_over [TokenArithmetic α] (h : r.task.isRunning = false) (now : Instant)
    (calledOff : Bool) (a : Action) :
    r.step now calledOff a = (r, []) := by
  obtain ⟨id, layer, catalog, correlator, task⟩ := r
  cases task with
  | running state => cases h
  | ended => cases a <;> cases calledOff <;> rfl
  | panicked cause => cases a <;> cases calledOff <;> rfl

/-! ### Requests -/

/-- A request is under way while the task awaits it, and nothing is left of any otherwise. -/
def Sound (r : Refreshing α) : Prop :=
  if r.awaiting?.isSome then (r.layer.traces r.id).Underway else r.layer.traces r.id = .nothing

theorem Sound.nothing (h : r.Sound) (hnone : r.awaiting? = none) :
    r.layer.traces r.id = .nothing := by
  simpa [Sound, hnone] using h

theorem Sound.underway (h : r.Sound) (hsome : r.awaiting?.isSome = true) :
    (r.layer.traces r.id).Underway := by
  simpa [Sound, hsome] using h

theorem sound_of_nothing (h : r.layer.traces r.id = .nothing) (hnone : r.awaiting? = none) :
    r.Sound := by
  simpa [Sound, hnone] using h

theorem sound_of_underway {layer : RequestLayer α} (h : (layer.traces r.id).Underway)
    (hsome : r.awaiting?.isSome = true) : { r with layer }.Sound := by
  have hsome' : { r with layer }.awaiting?.isSome = true := hsome
  unfold Sound
  rw [if_pos hsome']
  exact h

/-- Whatever an inquiry goes on by, its next request was not sent yet. -/
theorem awaiting?_resumed {resume : Fetched → Task Errand} (h : r.awaiting? = some resume)
    (fetched : Fetched) (layer : RequestLayer α) :
    ({ r with layer, task := resume fetched } : Refreshing α).awaiting? = none := by
  unfold awaiting? at h
  split at h
  · rename_i path resume' _
    cases h
    cases hplan : resume' fetched with
    | done refresh => simp [awaiting?, hplan]
    | ask path resume => simp [awaiting?, hplan]
  · cases h

namespace Sound

theorem begin (h : r.Sound) (now : Instant) : (r.begin now).Sound := by
  unfold Refreshing.begin
  split
  · rename_i hspawned
    refine sound_of_nothing (h.nothing (by rw [awaiting?, hspawned])) ?_
    cases hstart : Ticker.starting now _ <;> rfl
  · exact h

theorem tick (h : r.Sound) (now : Instant) : (r.tick now).Sound := by
  unfold Refreshing.tick
  split
  · rename_i hresting
    split
    · refine sound_of_nothing (h.nothing (by rw [awaiting?, hresting])) ?_
      cases htick : Ticker.tick _ now <;> rfl
    · exact h
  · exact h

theorem send [TokenArithmetic α] (h : r.Sound) (now : Instant) : (r.send now).1.Sound := by
  unfold Refreshing.send
  split
  · rename_i ticker path resume hidle
    have hnothing := h.nothing (by rw [awaiting?, hidle])
    exact RequestLayer.traces_send (c := Call.onBehalf r.id path) hnothing
  · exact h

theorem retry [TokenArithmetic α] (h : r.Sound) (now : Instant) : (r.retry now).1.Sound := by
  unfold Refreshing.retry
  split
  · rename_i hdrawing
    obtain ⟨hsome, hdrawing⟩ := Bool.and_eq_true_iff.mp hdrawing
    exact sound_of_underway (RequestLayer.traces_retry (h.underway hsome) hdrawing) hsome
  · exact h

theorem handOver (h : r.Sound) (now : Instant) : (r.handOver now).1.Sound := by
  unfold Refreshing.handOver
  split
  · rename_i resume c since hawaiting hqueued
    have hsome : r.awaiting?.isSome = true := by rw [hawaiting]; rfl
    have hunderway := h.underway hsome
    dsimp only
    split
    · exact h
    · refine sound_of_underway ?_ hsome
      rw [RequestLayer.traces_handOver hunderway hqueued]
      exact .sent (c, since)
    · exact sound_of_nothing (RequestLayer.traces_refused hunderway hqueued)
        (awaiting?_resumed hawaiting _ _)
  · exact h

theorem answer (h : r.Sound) (now : Instant) (fetched : Fetched) :
    (r.answer now fetched).1.Sound := by
  unfold Refreshing.answer
  split
  · rename_i resume hawaiting
    split
    · rename_i hsent
      have hunderway := h.underway (by rw [hawaiting]; rfl)
      exact sound_of_nothing (RequestLayer.traces_reply hunderway hsent fetched.reply)
        (awaiting?_resumed hawaiting _ _)
    · exact h
  · exact h

theorem conclude [TokenArithmetic α] (h : r.Sound) (now : Instant) : (r.conclude now).1.Sound := by
  unfold Refreshing.conclude
  split
  · rename_i hdone
    exact sound_of_nothing (h.nothing (by rw [awaiting?, hdone])) rfl
  · exact h

theorem heed (h : r.Sound) : r.heed.1.Sound := by
  unfold Refreshing.heed
  split
  · rename_i hresting
    exact sound_of_nothing (h.nothing (by rw [awaiting?, hresting])) rfl
  · exact sound_of_nothing (RequestLayer.traces_cancel _ _) rfl
  · exact h

theorem step [TokenArithmetic α] (h : r.Sound) (now : Instant) (calledOff : Bool) (a : Action) :
    (r.step now calledOff a).1.Sound := by
  cases a with
  | begin => exact h.begin now
  | tick => exact h.tick now
  | send => exact h.send now
  | retry => exact h.retry now
  | handOver => exact h.handOver now
  | answer fetched => exact h.answer now fetched
  | conclude => exact h.conclude now
  | heed =>
    rw [Refreshing.step]
    split
    · exact h.heed
    · exact h

end Sound

theorem id_step [TokenArithmetic α] (r : Refreshing α) (now : Instant) (calledOff : Bool)
    (a : Action) : (r.step now calledOff a).1.id = r.id := by
  cases a with
  | begin => simp only [step, begin]; split <;> rfl
  | tick => simp only [step, tick]; split <;> [split <;> rfl; rfl]
  | send => simp only [step, send]; split <;> rfl
  | retry => simp only [step, retry]; split <;> rfl
  | handOver => simp only [step, handOver]; split <;> [split <;> rfl; rfl]
  | answer fetched => simp only [step, answer]; split <;> [split <;> rfl; rfl]
  | conclude => simp only [step, conclude]; split <;> rfl
  | heed => simp only [step, heed]; split <;> [split <;> rfl; rfl]

/-- A discovery task that has begun heeds the call. -/
theorem heeds (r : Refreshing α) (now : Instant) : (r.begin now).heed.1.task.isRunning = false := by
  obtain ⟨id, layer, catalog, correlator, task⟩ := r
  rcases task with (period | ticker | ⟨ticker, plan, asked⟩) | _ | cause
  · cases hstarting : Ticker.starting now period <;>
      simp [begin, hstarting, Except.map, Task.begin, heed] <;> rfl
  · rfl
  · rfl
  · rfl
  · rfl

end Refreshing

namespace Relisting

variable {r r' : Relisting} {now : Instant} {resources : Nat} {ns : List Notice}

/-- A worker that runs is not one that is over. -/
theorem getElem?_set_over {k : Nat} {w : Worker} (task : Task Worker)
    (hk : r.workers[k]? = some (.running w)) {i : Nat} {t : Task Worker}
    (ht : r.workers[i]? = some t) (hover : t.isRunning = false) :
    (r.workers.set k task)[i]? = some t := by
  rcases eq_or_ne k i with rfl | hne
  · rw [hk] at ht
    cases ht
    cases hover
  · rw [List.getElem?_set_ne hne, ht]

/-- A flush task that is over stays as it is. -/
theorem Move.flush (h : Move now resources r ns r') (hover : r.flush.isRunning = false) :
    r'.flush = r.flush := by
  cases h with
  | idle | told | read | left => rfl
  | began hflush | flushed hflush | gone hflush =>
    rw [hflush] at hover
    cases hover

/-- A worker that is over stays as it is. -/
theorem Move.worker (h : Move now resources r ns r') {k : Nat} {t : Task Worker}
    (ht : r.workers[k]? = some t) (hover : t.isRunning = false) : r'.workers[k]? = some t := by
  cases h with
  | idle | began | flushed | gone => exact ht
  | told hk | read hk | left hk => exact getElem?_set_over _ hk ht hover

theorem Move.length (h : Move now resources r ns r') : r'.workers.length = r.workers.length := by
  cases h with
  | idle | began | flushed | gone => rfl
  | told | read | left => exact List.length_set

/-- Once the flush task and all workers are over, none of them does anything. -/
theorem Move.eq_of_over (h : Move now resources r ns r') (hflush : r.flush.isRunning = false)
    (hworkers : ∀ (k : Nat) (t : Task Worker), r.workers[k]? = some t → t.isRunning = false) :
    r' = r ∧ ns = [] := by
  cases h with
  | idle => exact ⟨rfl, rfl⟩
  | began h | flushed h | gone h =>
    rw [h] at hflush
    cases hflush
  | told h | read h | left h => cases hworkers _ _ h

/-- A flush task that has begun heeds the call. -/
theorem heeds (r : Relisting) (now : Instant) : (r.begin now).heed.1.flush.isRunning = false := by
  obtain ⟨flush, bulletin, workers⟩ := r
  rcases flush with (period | ticker) | _ | cause
  · cases hafter : Ticker.after now period <;> simp [begin, hafter, heed] <;> rfl
  · rfl
  · rfl
  · rfl

/-- A worker that has read what it was told of heeds the call. -/
theorem worker_heeds (r : Relisting) {k : Nat} (hk : k < r.workers.length) (now : Instant)
    (resources : Nat) :
    ∃ t, (((r.step now resources true (.read k)).1.step now resources true
      (.leave k)).1.workers[k]? = some t) ∧ t.isRunning = false := by
  obtain ⟨t, ht⟩ : ∃ t, r.workers[k]? = some t := ⟨_, List.getElem?_eq_getElem hk⟩
  have hleave (r : Relisting) (seen : Nat) (h : r.workers[k]? = some (.running (.parked seen))) :
      (r.step now resources true (.leave k)).1.workers[k]? = some .ended := by
    rw [step, if_pos rfl, move_of_running r h]
    exact List.getElem?_set_self (List.getElem?_eq_some_iff.mp h).1
  rcases t with (seen | seen) | _ | cause
  · have hread : (r.step now resources true (.read k)).1 = r := by
      rw [step, move_of_running r ht]
      exact set_self r ht
    rw [hread]
    exact ⟨_, hleave r seen ht, rfl⟩
  · have hread : (r.step now resources true (.read k)).1.workers[k]? =
        some (.running (.parked r.bulletin.version)) := by
      rw [step, move_of_running r ht]
      exact List.getElem?_set_self hk
    exact ⟨_, hleave _ _ hread, rfl⟩
  · exact ⟨.ended, by simp [step, move, ht], rfl⟩
  · exact ⟨.panicked cause, by simp [step, move, ht], rfl⟩

end Relisting

/-! ### All tasks together -/

namespace Crew

variable {α : Type} [TokenArithmetic α] {s : Crew α} {o : ControllerOptions}

/-- The panics of some of the tasks. -/
def panics (s : Crew α) (ms : List Member) : List TaskPanic :=
  ms.filterMap fun m => (s.fate? m).join

/-- Whether an action is of the tasks, or of those who stop them. -/
def Action.isOwn : Action α → Bool
  | .wait _ | .elsewhere .. => false
  | _ => true

/-- Whatever happens, the discovery task does one thing at most, and others leave its request
where it is. -/
theorem step_refreshing (s : Crew α) (a : Action α) :
    (∃ b, (s.step a).1.refreshing = (s.refreshing.step s.now s.isCalledOff b).1) ∨
    (s.step a).1.refreshing.id = s.refreshing.id ∧
      (s.step a).1.refreshing.task = s.refreshing.task ∧
      (s.step a).1.refreshing.layer.traces s.refreshing.id =
        s.refreshing.layer.traces s.refreshing.id := by
  cases a with
  | wait nanos => exact .inr ⟨rfl, rfl, rfl⟩
  | elsewhere layer catalog =>
    rw [step]
    split
    · rename_i htraces
      exact .inr ⟨rfl, rfl, htraces⟩
    · exact .inr ⟨rfl, rfl, rfl⟩
  | refresh b => exact .inl ⟨b, rfl⟩
  | relist b => exact .inr ⟨rfl, rfl, rfl⟩
  | stop =>
    rw [step, s.stop_eq]
    exact .inr ⟨rfl, rfl, rfl⟩
  | join m =>
    rw [step, s.join_eq m]
    exact .inr ⟨rfl, rfl, rfl⟩
  | finish =>
    rw [step, s.finish_eq]
    exact .inr ⟨rfl, rfl, rfl⟩

/-- Whatever happens, the flush task and the workers do one thing at most. -/
theorem step_relisting (s : Crew α) (a : Action α) :
    ∃ ns, Relisting.Move s.now s.refreshing.catalog.size s.relisting ns (s.step a).1.relisting := by
  obtain ⟨-, hmove | ⟨hsame, -⟩⟩ := s.step_move a
  · exact ⟨_, hmove⟩
  · rw [hsame]
    exact ⟨[], .idle⟩

/-- A task that is over stays as it is. -/
theorem fate_step (s : Crew α) (a : Action α) {m : Member} {f : Option TaskPanic}
    (h : s.fate? m = some f) : (s.step a).1.fate? m = some f := by
  obtain ⟨ns, hmove⟩ := s.step_relisting a
  cases m with
  | discovery =>
    have htask : (s.step a).1.refreshing.task = s.refreshing.task := by
      rcases s.step_refreshing a with ⟨b, hstep⟩ | ⟨-, hsame, -⟩
      · rw [hstep, Refreshing.step_of_over (Task.isRunning_of_fate? h)]
      · exact hsame
    rw [← h, fate?, fate?, htask]
  | flush => rw [← h, fate?, fate?, hmove.flush (Task.isRunning_of_fate? h)]
  | worker k =>
    obtain ⟨t, hk, ht⟩ := Option.bind_eq_some_iff.mp h
    rw [fate?, hmove.worker hk (Task.isRunning_of_fate? ht)]
    exact ht

omit [TokenArithmetic α] in
theorem panics_congr {s t : Crew α} {ms : List Member} (h : ∀ m ∈ ms, t.fate? m = s.fate? m) :
    t.panics ms = s.panics ms :=
  List.filterMap_congr fun m hm => by rw [h m hm]

/-- The tasks are waited for, each one until it is over, and those that panicked are counted. -/
def Accounted (o : ControllerOptions) (s : Crew α) : Prop :=
  match s.handle with
  | .held => True
  | .joining waiting panicked =>
    ∃ joined, (joined ++ waiting).Perm (Member.all o.workers) ∧
      (∀ m ∈ joined, (s.fate? m).isSome) ∧ panicked = (s.panics joined).length
  | .returned outcome =>
    (∀ m ∈ Member.all o.workers, (s.fate? m).isSome) ∧
      outcome = verdict (s.panics (Member.all o.workers)).length

namespace Accounted

omit [TokenArithmetic α] in
/-- Tasks may go on, if those that are over stay so. -/
theorem later (h : s.Accounted o) {t : Crew α} (hhandle : t.handle = s.handle)
    (hfate : ∀ m f, s.fate? m = some f → t.fate? m = some f) : t.Accounted o := by
  have hkeep (ms : List Member) (hms : ∀ m ∈ ms, (s.fate? m).isSome) :
      (∀ m ∈ ms, (t.fate? m).isSome) ∧ t.panics ms = s.panics ms := by
    have hsame (m : Member) (hm : m ∈ ms) : t.fate? m = s.fate? m := by
      obtain ⟨f, hf⟩ := Option.isSome_iff_exists.mp (hms m hm)
      rw [hf, hfate m f hf]
    exact ⟨fun m hm => by rw [hsame m hm]; exact hms m hm, panics_congr hsame⟩
  unfold Accounted at h ⊢
  rw [hhandle]
  split
  · trivial
  · rename_i hjoining
    rw [hjoining] at h
    obtain ⟨joined, hperm, hover, hcount⟩ := h
    obtain ⟨hover', hpanics⟩ := hkeep joined hover
    exact ⟨joined, hperm, hover', by rw [hpanics]; exact hcount⟩
  · rename_i hreturned
    rw [hreturned] at h
    obtain ⟨hover, houtcome⟩ := h
    obtain ⟨hover', hpanics⟩ := hkeep _ hover
    exact ⟨hover', by rw [hpanics]; exact houtcome⟩

omit [TokenArithmetic α] in
theorem stop (h : s.Accounted o) (hsize : s.relisting.workers.length = o.workers) :
    s.stop.Accounted o := by
  unfold Crew.stop
  split
  · exact ⟨[], by rw [List.nil_append, hsize], nofun, rfl⟩
  · exact h

omit [TokenArithmetic α] in
theorem join (h : s.Accounted o) (m : Member) : (s.join m).1.Accounted o := by
  unfold Crew.join
  split
  · rename_i waiting panicked hjoining
    split
    · rename_i hwaiting
      unfold Accounted at h
      rw [hjoining] at h
      obtain ⟨joined, hperm, hover, hcount⟩ := h
      have hperm' : ((joined ++ [m]) ++ waiting.erase m).Perm (Member.all o.workers) := by
        rw [List.append_assoc]
        exact ((List.perm_cons_erase hwaiting).symm.append_left joined).trans hperm
      have hover' (f : Option TaskPanic) (hf : s.fate? m = some f) :
          ∀ m' ∈ joined ++ [m], (s.fate? m').isSome := by
        intro m' hm'
        rcases List.mem_append.mp hm' with hold | hnew
        · exact hover m' hold
        · rw [List.mem_singleton.mp hnew, hf]
          rfl
      split
      · unfold Accounted
        rw [hjoining]
        exact ⟨joined, hperm, hover, hcount⟩
      · rename_i hfate
        refine ⟨joined ++ [m], hperm', hover' _ hfate, ?_⟩
        show panicked = (s.panics (joined ++ [m])).length
        simp [panics, hfate, hcount]
      · rename_i cause hfate
        refine ⟨joined ++ [m], hperm', hover' _ hfate, ?_⟩
        show panicked + 1 = (s.panics (joined ++ [m])).length
        simp [panics, hfate, hcount]
    · exact h
  · exact h

omit [TokenArithmetic α] in
theorem finish (h : s.Accounted o) : s.finish.1.Accounted o := by
  unfold Crew.finish
  split
  · rename_i panicked hjoining
    unfold Accounted at h
    rw [hjoining] at h
    obtain ⟨joined, hperm, hover, hcount⟩ := h
    rw [List.append_nil] at hperm
    refine ⟨fun m hm => hover m (hperm.mem_iff.mpr hm), ?_⟩
    show _ = verdict (s.panics (Member.all o.workers)).length
    rw [hcount, panics, panics, (hperm.filterMap _).length_eq]
  · exact h

theorem step (h : s.Accounted o) (hsize : s.relisting.workers.length = o.workers) (a : Action α) :
    (s.step a).1.Accounted o := by
  have hfate (m : Member) (f : Option TaskPanic) := s.fate_step a (m := m) (f := f)
  cases a with
  | wait nanos => exact h.later rfl hfate
  | elsewhere layer catalog =>
    refine h.later ?_ hfate
    rw [Crew.step]
    split <;> rfl
  | refresh b => exact h.later rfl hfate
  | relist b => exact h.later rfl hfate
  | stop => exact h.stop hsize
  | join m => exact h.join m
  | finish => exact h.finish

end Accounted

/-- What is known of a controller at every time. -/
structure Kept (id : RequestId) (o : ControllerOptions) (s : Crew α) : Prop where
  id_eq : s.refreshing.id = id
  size : s.relisting.workers.length = o.workers
  sound : s.refreshing.Sound
  accounted : s.Accounted o

theorem Kept.step {id : RequestId} (h : s.Kept id o) (a : Action α) : (s.step a).1.Kept id o := by
  obtain ⟨ns, hmove⟩ := s.step_relisting a
  have hsize := hmove.length.trans h.size
  have haccounted := h.accounted.step h.size a
  rcases s.step_refreshing a with ⟨b, hstep⟩ | ⟨hid, htask, htraces⟩
  · refine ⟨?_, hsize, ?_, haccounted⟩
    · rw [hstep, Refreshing.id_step, h.id_eq]
    · rw [hstep]
      exact h.sound.step s.now s.isCalledOff b
  · refine ⟨hid.trans h.id_eq, hsize, ?_, haccounted⟩
    have hawaiting : (s.step a).1.refreshing.awaiting? = s.refreshing.awaiting? := by
      rw [Refreshing.awaiting?, Refreshing.awaiting?, htask]
    have hsound := h.sound
    rw [Refreshing.Sound, hawaiting, hid, htraces]
    exact hsound

omit [TokenArithmetic α] in
theorem kept_start (id : RequestId) (limits : RateLimit → Limits α) (client : RateLimit)
    (o : ControllerOptions) (now : Instant) : (start id limits client o now).1.Kept id o where
  id_eq := rfl
  size := List.length_replicate
  sound := Refreshing.sound_of_nothing rfl rfl
  accounted := trivial

theorem kept_of_run {id : RequestId} (h : s.Kept id o) (actions : List (Action α)) :
    (s.run actions).1.Kept id o :=
  run_keeps h (fun _ a h => h.step a) actions

/-! ### After the stop -/

namespace Kept

variable {id : RequestId} {outcome : Except StopFault Unit} (h : s.Kept id o)
  (hreturned : s.handle = .returned outcome)

include h hreturned

omit [TokenArithmetic α] in
theorem all_over : (∀ m ∈ Member.all o.workers, (s.fate? m).isSome) ∧
    outcome = verdict (s.panics (Member.all o.workers)).length := by
  have haccounted := h.accounted
  rw [Accounted, hreturned] at haccounted
  exact haccounted

omit [TokenArithmetic α] in
theorem discovery_over : s.refreshing.task.isRunning = false := by
  have hsome := (h.all_over hreturned).1 .discovery (by simp [Member.all])
  simpa [fate?, Task.isSome_fate?] using hsome

omit [TokenArithmetic α] in
theorem flush_over : s.relisting.flush.isRunning = false := by
  have hsome := (h.all_over hreturned).1 .flush (by simp [Member.all])
  simpa [fate?, Task.isSome_fate?] using hsome

omit [TokenArithmetic α] in
theorem worker_over (k : Nat) (t : Task Worker) (ht : s.relisting.workers[k]? = some t) :
    t.isRunning = false := by
  have hlt : k < o.workers := h.size ▸ (List.getElem?_eq_some_iff.mp ht).1
  have hsome := (h.all_over hreturned).1 (.worker k) (by simp [Member.all, hlt])
  simpa [fate?, ht, Task.isSome_fate?] using hsome

omit [TokenArithmetic α] in
/-- Nothing is left of any request. -/
theorem nothing_left : s.refreshing.layer.traces id = .nothing := by
  have hover := h.discovery_over hreturned
  have hnone : s.refreshing.awaiting? = none := by
    unfold Refreshing.awaiting?
    split
    · rename_i htask
      rw [htask] at hover
      cases hover
    · rfl
  rw [← h.id_eq]
  exact h.sound.nothing hnone

/-- Nothing that the tasks could do does anything. -/
theorem step_own {a : Action α} (ha : a.isOwn = true) : s.step a = (s, []) := by
  cases a with
  | wait nanos => cases ha
  | elsewhere layer catalog => cases ha
  | refresh b =>
    rw [Crew.step, Refreshing.step_of_over (h.discovery_over hreturned)]
  | relist b =>
    have hmove := s.relisting.step_move s.now s.refreshing.catalog.size s.isCalledOff b
    obtain ⟨hsame, hnone⟩ := hmove.eq_of_over (h.flush_over hreturned) (h.worker_over hreturned)
    rw [Crew.step]
    dsimp only
    rw [hsame, hnone]
    rfl
  | stop => rw [Crew.step, Crew.stop, hreturned]
  | join m => rw [Crew.step, Crew.join, hreturned]
  | finish => rw [Crew.step, Crew.finish, hreturned]

/-- What happens afterwards is not seen, and the tasks stay as they are. -/
theorem run_quiet (more : List (Action α)) :
    (s.run more).2 = [] ∧ (s.run more).1.handle = .returned outcome ∧
      (s.run more).1.relisting = s.relisting ∧
      (s.run more).1.refreshing.task = s.refreshing.task ∧
      (s.run more).1.refreshing.correlator = s.refreshing.correlator := by
  let Same (t : Crew α) (es : List CrewEvent) : Prop :=
    t.Kept id o ∧ es = [] ∧ t.handle = .returned outcome ∧ t.relisting = s.relisting ∧
      t.refreshing.task = s.refreshing.task ∧ t.refreshing.correlator = s.refreshing.correlator
  have hstart : Same s [] := ⟨h, rfl, hreturned, rfl, rfl, rfl⟩
  have hrun := run_induct hstart (fun t es a ht => ?_) more
  · exact hrun.2
  · obtain ⟨hkept, rfl, hhandle, hrelisting, htask, hcorrelator⟩ := ht
    refine ⟨hkept.step a, ?_⟩
    cases hown : a.isOwn with
    | true =>
      rw [hkept.step_own hhandle hown]
      exact ⟨rfl, hhandle, hrelisting, htask, hcorrelator⟩
    | false =>
      cases a with
      | wait nanos => exact ⟨rfl, hhandle, hrelisting, htask, hcorrelator⟩
      | elsewhere layer catalog =>
        rw [Crew.step]
        split
        · exact ⟨rfl, hhandle, hrelisting, htask, hcorrelator⟩
        · exact ⟨rfl, hhandle, hrelisting, htask, hcorrelator⟩
      | refresh b | relist b | stop | join m | finish => cases hown

end Kept

/-- **Stopped is quiet.** Once the stop of a controller has returned, in whatever state it was
called and whatever happened until then, all of its tasks are over, and nothing is left of its
requests.  Whatever happens from then on, nothing is seen of the controller: no request and no
token, no generation published or picked up, no measurement and no log entry.  The tasks stay
over, and each thing that one of them could do leaves everything as it is, the limiter and the
catalog included.  The stop went well exactly if no task panicked, and otherwise tells how many
did. -/
theorem quiet_after_stop (id : RequestId) (limits : RateLimit → Limits α) (client : RateLimit)
    (o : ControllerOptions) (began : Instant) (actions : List (Action α))
    {outcome : Except StopFault Unit}
    (h : ((start id limits client o began).1.run actions).1.handle = .returned outcome) :
    let s := ((start id limits client o began).1.run actions).1
    let tasks := Member.all o.workers
    tasks.length = 2 + o.workers ∧ (∀ m ∈ tasks, (s.fate? m).isSome) ∧
    (∀ more, (s.run more).2 = [] ∧ (∀ m, (s.run more).1.fate? m = s.fate? m) ∧
      (s.run more).1.refreshing.layer.traces id = .nothing ∧
      ∀ a : Action α, a.isOwn = true → (s.run more).1.step a = ((s.run more).1, [])) ∧
    outcome = (if s.panics tasks = [] then .ok ()
      else .error (StopFault.ofPanics (s.panics tasks).length)) := by
  intro s tasks
  have hkept : s.Kept id o := kept_of_run (kept_start id limits client o began) actions
  obtain ⟨hover, houtcome⟩ := hkept.all_over h
  refine ⟨?_, hover, fun more => ?_, ?_⟩
  · simp only [tasks, Member.all, List.length_cons, List.length_map, List.length_range]
    omega
  · obtain ⟨hnone, hhandle, hrelisting, htask, -⟩ := hkept.run_quiet h more
    have hlater : (s.run more).1.Kept id o := kept_of_run hkept more
    refine ⟨hnone, fun m => ?_, hlater.nothing_left hhandle, fun a ha => hlater.step_own hhandle ha⟩
    cases m with
    | discovery => rw [fate?, fate?, htask]
    | flush | worker k => rw [fate?, fate?, hrelisting]
  · rw [houtcome, verdict]
    exact if_congr List.length_eq_zero_iff rfl rfl

/-- A flush interval that is no interval makes the flush task panic. -/
def flushless : ControllerOptions := ⟨Span.ofSeconds 30, Span.zero, 1, ⟨1, 1⟩⟩

/-- The stop finds the discovery task with a request that waits for its service. -/
def stopUnderway : List (Action ℚ) :=
  [.relist .begin, .refresh .begin, .refresh .tick, .refresh .send, .stop, .relist (.leave 0),
    .join (.worker 0), .refresh .heed, .join .flush, .join .discovery, .finish]

/-- One task panicked, the others heeded the call, and so the stop tells of one. -/
theorem quiet_after_panic :
    let s := ((start 0 (fun _ => ⟨1, 1⟩) ⟨1, 1⟩ flushless 0).1.run stopUnderway).1
    s.handle = .returned (.error (StopFault.ofPanics 1)) ∧
      ∀ more, (s.run more).2 = [] ∧ (s.run more).1.refreshing.layer.traces 0 = .nothing := by
  obtain ⟨-, -, hquiet, -⟩ :=
    quiet_after_stop 0 (fun _ => ⟨1, 1⟩) ⟨1, 1⟩ flushless 0 stopUnderway rfl
  exact ⟨rfl, fun more => ⟨(hquiet more).1, (hquiet more).2.2.1⟩⟩

/-! ### The way to the end -/

theorem fate_run (s : Crew α) (actions : List (Action α)) {m : Member}
    (h : (s.fate? m).isSome = true) : ((s.run actions).1.fate? m).isSome = true := by
  refine run_keeps (P := fun t => (t.fate? m).isSome = true) h (fun t a ht => ?_) actions
  obtain ⟨f, hf⟩ := Option.isSome_iff_exists.mp ht
  rw [t.fate_step a hf]
  rfl

/-- Nobody takes the call back. -/
theorem isCalledOff_step (s : Crew α) (a : Action α) (h : s.isCalledOff = true) :
    (s.step a).1.isCalledOff = true := by
  cases a with
  | wait nanos => exact h
  | elsewhere layer catalog =>
    rw [step]
    split <;> exact h
  | refresh b => exact h
  | relist b => exact h
  | stop =>
    rw [step, stop]
    split
    · rfl
    · exact h
  | join m =>
    rw [step, join]
    split
    · split
      · split
        · exact h
        · rfl
        · rfl
      · exact h
    · exact h
  | finish =>
    rw [step, finish]
    split
    · rfl
    · exact h

theorem isCalledOff_run (s : Crew α) (actions : List (Action α)) (h : s.isCalledOff = true) :
    (s.run actions).1.isCalledOff = true :=
  run_keeps h (fun t a ht => t.isCalledOff_step a ht) actions

omit [TokenArithmetic α] in
theorem isCalledOff_stop (s : Crew α) : s.stop.isCalledOff = true := by
  obtain ⟨now, refreshing, relisting, handle⟩ := s
  cases handle <;> rfl

/-- The discovery task heeds the call, once it has begun. -/
theorem discovery_heeds (s : Crew α) (h : s.isCalledOff = true) :
    ((s.run [.refresh .begin, .refresh .heed]).1.fate? .discovery).isSome = true := by
  have hcalled : { s with refreshing := s.refreshing.begin s.now }.isCalledOff = true := h
  simp only [run, step, Refreshing.step, hcalled, if_true, fate?, Task.isSome_fate?,
    s.refreshing.heeds s.now, Bool.not_false]

theorem flush_heeds (s : Crew α) (h : s.isCalledOff = true) :
    ((s.run [.relist .begin, .relist .heed]).1.fate? .flush).isSome = true := by
  have hcalled : { s with relisting := s.relisting.begin s.now }.isCalledOff = true := h
  simp only [run, step, Relisting.step, hcalled, if_true, fate?, Task.isSome_fate?,
    s.relisting.heeds s.now, Bool.not_false]

/-- A worker heeds the call, once it has read what it was told of. -/
theorem worker_heeds (s : Crew α) (h : s.isCalledOff = true) {k : Nat}
    (hk : k < s.relisting.workers.length) :
    ((s.run [.relist (.read k), .relist (.leave k)]).1.fate? (.worker k)).isSome = true := by
  obtain ⟨t, ht, hover⟩ := s.relisting.worker_heeds hk s.now s.refreshing.catalog.size
  have hget : (s.run [.relist (.read k), .relist (.leave k)]).1.relisting.workers[k]? = some t := by
    rw [← ht, ← h]
    rfl
  rw [fate?, hget]
  simp [Task.isSome_fate?, hover]

theorem length_workers_run (s : Crew α) (actions : List (Action α)) :
    (s.run actions).1.relisting.workers.length = s.relisting.workers.length := by
  refine run_keeps (P := fun t => t.relisting.workers.length = s.relisting.workers.length) rfl
    (fun t a ht => ?_) actions
  obtain ⟨ns, hmove⟩ := t.step_relisting a
  exact hmove.length.trans ht

/-- One after the other, workers read and leave. -/
def dismissal (ks : List Nat) : List (Action α) :=
  ks.flatMap fun k => [.relist (.read k), .relist (.leave k)]

theorem workers_heed (s : Crew α) (h : s.isCalledOff = true) (ks : List Nat)
    (hks : ∀ k ∈ ks, k < s.relisting.workers.length) :
    ∀ k ∈ ks, ((s.run (dismissal ks)).1.fate? (.worker k)).isSome = true := by
  induction ks generalizing s with
  | nil => nofun
  | cons k ks ih =>
    have happend : s.run (dismissal (k :: ks)) = s.run
        ([.relist (.read k), .relist (.leave k)] ++ dismissal ks) := rfl
    rw [happend, run_append]
    dsimp only
    generalize hfirst : s.run [.relist (.read k), .relist (.leave k)] = first
    have hone := s.worker_heeds h (hks k List.mem_cons_self)
    have hcalled := s.isCalledOff_run [.relist (.read k), .relist (.leave k)] h
    have hlength := s.length_workers_run [.relist (.read k), .relist (.leave k)]
    rw [hfirst] at hone hcalled hlength
    intro i hi
    rcases List.mem_cons.mp hi with rfl | hi
    · exact first.1.fate_run _ hone
    · refine ih first.1 hcalled (fun j hj => ?_) i hi
      rw [hlength]
      exact hks j (List.mem_cons_of_mem _ hj)

/-- The tasks that are still waited for. -/
def waiting (s : Crew α) : List Member :=
  match s.handle with
  | .joining waiting _ => waiting
  | _ => []

omit [TokenArithmetic α] in
theorem waiting_join (s : Crew α) {m : Member} (h : (s.fate? m).isSome = true) :
    (s.join m).1.waiting = s.waiting.erase m := by
  obtain ⟨f, hf⟩ := Option.isSome_iff_exists.mp h
  rcases hhandle : s.handle with _ | ⟨ms, panicked⟩ | outcome
  · simp [join, waiting, hhandle]
  · by_cases hm : m ∈ ms
    · cases f <;> simp [join, waiting, hhandle, hm, hf]
    · simp [join, waiting, hhandle, hm, List.erase_of_not_mem hm]
  · simp [join, waiting, hhandle]

/-- Tasks that are over are joined one after the other. -/
theorem waiting_joins (s : Crew α) (ms : List Member) (h : ∀ m ∈ ms, (s.fate? m).isSome = true) :
    (s.run (ms.map .join)).1.waiting = s.waiting.diff ms := by
  induction ms generalizing s with
  | nil => rfl
  | cons m ms ih =>
    have hstep : (s.run ((m :: ms).map .join)).1 = ((s.join m).1.run (ms.map .join)).1 := rfl
    rw [hstep, List.diff_cons, ← s.waiting_join (h m List.mem_cons_self)]
    exact ih _ fun m' hm' => s.fate_run [.join m] (h m' (List.mem_cons_of_mem _ hm'))

theorem diff_eq_nil_of_subperm {β : Type} [DecidableEq β] {xs ys : List β} (h : xs.Subperm ys) :
    xs.diff ys = [] := by
  refine List.eq_nil_iff_forall_not_mem.mpr fun x hx => ?_
  have hcount := List.count_pos_iff.mpr hx
  rw [List.count_diff] at hcount
  exact absurd (h.count_le x) (by omega)

omit [TokenArithmetic α] in
theorem waiting_subperm {id : RequestId} (h : s.Kept id o) :
    s.waiting.Subperm (Member.all o.workers) := by
  have haccounted := h.accounted
  unfold Accounted at haccounted
  unfold waiting
  split
  · rename_i ms panicked hjoining
    rw [hjoining] at haccounted
    obtain ⟨joined, hperm, -⟩ := haccounted
    exact hperm.subperm_left.mp (List.sublist_append_right joined ms).subperm
  · exact List.nil_subperm

omit [TokenArithmetic α] in
/-- If nobody is waited for, the stop returns. -/
theorem finish_returns (h : s.waiting = []) (hcalled : s.isCalledOff = true) :
    ∃ outcome, s.finish.1.handle = .returned outcome := by
  rcases hhandle : s.handle with _ | ⟨ms, panicked⟩ | outcome
  · rw [isCalledOff, hhandle] at hcalled
    cases hcalled
  · rw [waiting, hhandle] at h
    subst h
    exact ⟨verdict panicked, by rw [finish, hhandle]⟩
  · exact ⟨outcome, by rw [finish, hhandle]; exact hhandle⟩

/-- The tasks are called off, each one heeds the call, and all are joined. -/
def windUp (workers : Nat) : List (Action α) :=
  .stop :: ([.refresh .begin, .refresh .heed] ++ ([.relist .begin, .relist .heed] ++
    (dismissal (List.range workers) ++ ((Member.all workers).map .join ++ [.finish]))))

/-- **Stopping comes to an end.** Wherever the tasks are, it takes a few steps of theirs until the
stop returns, without time, answers or tokens. -/
theorem stop_returns {id : RequestId} (h : s.Kept id o) :
    ∃ outcome, (s.run (windUp o.workers)).1.handle = .returned outcome := by
  have hkept := h.step .stop
  have hcalled : (s.step .stop).1.isCalledOff = true := s.isCalledOff_stop
  rw [windUp, run]
  dsimp only
  generalize (s.step .stop).1 = s at hkept hcalled
  -- The discovery task heeds the call.
  have hdiscovery := s.discovery_heeds hcalled
  replace hkept := kept_of_run hkept [.refresh .begin, .refresh .heed]
  replace hcalled := s.isCalledOff_run [.refresh .begin, .refresh .heed] hcalled
  rw [run_append]
  dsimp only
  generalize (s.run [.refresh .begin, .refresh .heed]).1 = s at hdiscovery hkept hcalled
  -- The flush task does.
  have hflush := s.flush_heeds hcalled
  replace hdiscovery := s.fate_run [.relist .begin, .relist .heed] hdiscovery
  replace hkept := kept_of_run hkept [.relist .begin, .relist .heed]
  replace hcalled := s.isCalledOff_run [.relist .begin, .relist .heed] hcalled
  rw [run_append]
  dsimp only
  generalize (s.run [.relist .begin, .relist .heed]).1 = s at hdiscovery hflush hkept hcalled
  -- The workers do.
  have hworkers := s.workers_heed hcalled (List.range o.workers) fun k hk => by
    rw [hkept.size]
    exact List.mem_range.mp hk
  replace hdiscovery := s.fate_run (dismissal (List.range o.workers)) hdiscovery
  replace hflush := s.fate_run (dismissal (List.range o.workers)) hflush
  replace hkept := kept_of_run hkept (dismissal (List.range o.workers))
  replace hcalled := s.isCalledOff_run (dismissal (List.range o.workers)) hcalled
  rw [run_append]
  dsimp only
  generalize (s.run (dismissal (List.range o.workers))).1 = s
    at hdiscovery hflush hworkers hkept hcalled
  -- So all of them are joined.
  have hover : ∀ m ∈ Member.all o.workers, (s.fate? m).isSome = true := by
    intro m hm
    cases m with
    | discovery => exact hdiscovery
    | flush => exact hflush
    | worker k => exact hworkers k (by simpa [Member.all] using hm)
  have hwaiting := s.waiting_joins (Member.all o.workers) hover
  rw [diff_eq_nil_of_subperm (waiting_subperm hkept)] at hwaiting
  replace hcalled := s.isCalledOff_run ((Member.all o.workers).map .join) hcalled
  rw [run_append]
  dsimp only
  generalize (s.run ((Member.all o.workers).map .join)).1 = s at hwaiting hcalled
  exact s.finish_returns hwaiting hcalled

end Crew

end ClusterAgent
