/-
Workers and generations.

The flush task publishes generations one by one, and workers pick them up when they get
round to it, which may be much later.  Between the moment at which a worker is told that
there are news and the one at which it reads them, more generations may be published.

* `Ticker.horizon` — an instant before which no tick is due that was put off;
* `Relisting.Move`, `Relisting.step_move` — what the flush task and the workers can do;
* `Relisting.Picked` — what a worker picked up, by what it is at;
* `Relisting.Paced` — when the next generation is due, by how many there were;
* `Relisting.Kept.move` — one step keeps what is known of both;
* `Crew.generations` — so generations are counted and paced, and no worker loses the newest
  one, sees one twice, or sees an old one.

Design notes: a version goes up by one with each generation, so both are the same number;
that they are is part of what is kept.
-/
import ClusterAgent.Proofs.Client.Traces
import ClusterAgent.Proofs.Telemetry.Counting
import Mathlib.Data.List.Basic

namespace ClusterAgent

namespace Ticker

variable {now : Instant} {period : Span} {t t' : Ticker}

theorem period_tick (h : t.tick now = .ok t') : t'.period = t.period := by
  unfold tick at h
  split at h
  · split at h
    · cases h
      rfl
    · cases h
  · cases h
    rfl

theorem after_eq_ok (h : after now period = .ok t) :
    t.period = period ∧ 0 < period.nanos ∧ t.due = now + period.nanos := by
  unfold after ahead? at h
  split at h
  · cases h
  · rename_i hahead
    split at h
    · cases h
    · rename_i hzero
      have hpos : 0 < period.nanos := by simpa [Span.isZero, Nat.pos_iff_ne_zero] using hzero
      cases h
      split at hahead
      · cases hahead
        exact ⟨rfl, hpos, rfl⟩
      · cases hahead

/-- No tick that was put off is due before this instant: the first tick is not put off, nor is one
from which a period fits the clock. -/
def horizon (began : Instant) (period : Span) : Instant :=
  max (began + period.nanos) (endOfTime - period.nanos) + farAhead

theorem le_horizon (began : Instant) (period : Span) :
    began + period.nanos ≤ horizon began period :=
  le_trans (le_max_left _ _) (Nat.le_add_right _ _)

/-- The ticks after a first one are a period apart, unless one is put off beyond the horizon. -/
theorem due_of_ticks {began : Instant} {n : Nat}
    (hdue : began + (n + 1) * t.period.nanos ≤ t.due ∨ horizon began t.period ≤ t.due)
    (hnow : t.due ≤ now) (h : t.tick now = .ok t') :
    began + (n + 1 + 1) * t.period.nanos ≤ t'.due ∨ horizon began t.period ≤ t'.due := by
  rcases due_of_tick h with hlater | ⟨hend, hput⟩
  · rcases hdue with hcount | hbeyond
    · refine .inl (le_trans ?_ hlater)
      rw [Nat.succ_mul, ← Nat.add_assoc]
      exact Nat.add_le_add_right hcount _
    · exact .inr (le_trans hbeyond (le_trans (Nat.le_add_right _ _) hlater))
  · -- The tick that is taken is the first one or comes after it, so it is late enough.
    have hfirst : began + t.period.nanos ≤ t.due := by
      rcases hdue with hcount | hbeyond
      · exact le_trans (Nat.add_le_add_left (Nat.le_mul_of_pos_left _ (Nat.succ_pos n)) _) hcount
      · exact le_trans (le_horizon began t.period) hbeyond
    have hlast : endOfTime - t.period.nanos ≤ now :=
      Nat.sub_le_of_le_add (le_trans hend (Nat.add_le_add_right hnow _))
    rw [hput]
    exact .inr (Nat.add_le_add_right (max_le (le_trans hfirst hnow) hlast) _)

end Ticker

/-! ### What is told of generations -/

namespace Notice

/-- Whether a notice tells of a generation. -/
def ofRelist : Notice → Bool
  | .measured .cacheFlush => true
  | .logged (.flushing _) | .logged (.relistPickedUp ..) => true
  | _ => false

/-- The generation that was published. -/
def flushed? : Notice → Option Nat
  | .logged (.flushing generation) => some generation
  | _ => none

/-- The generation that a worker picked up. -/
def pickedUp? (id : Nat) : Notice → Option Nat
  | .logged (.relistPickedUp worker generation _) => if worker = id then some generation else none
  | _ => none

variable {n : Notice}

theorem flushed?_eq_none (h : n.ofRelist = false) : n.flushed? = none := by
  unfold flushed?
  split
  · cases h
  · rfl

theorem pickedUp?_eq_none (h : n.ofRelist = false) (id : Nat) : n.pickedUp? id = none := by
  unfold pickedUp?
  split
  · cases h
  · rfl

end Notice

/-- The generations that were published, in order. -/
def flushesOf (ns : List Notice) : List Nat := ns.filterMap Notice.flushed?

/-- The generations that a worker picked up, in order. -/
def picksOf (id : Nat) (ns : List Notice) : List Nat := ns.filterMap (Notice.pickedUp? id)

/-- How many generations were counted. -/
def countedFlushes (ns : List Notice) : Nat :=
  (measurementsOf ns).countP ((Metric.cacheFlushes, []) = ·.counted)

/-- Notices none of which tells of a generation. -/
def Unrelated (ns : List Notice) : Prop := ∀ n ∈ ns, n.ofRelist = false

namespace Unrelated

variable {ns : List Notice}

theorem nil : Unrelated [] := nofun

theorem flushesOf (h : Unrelated ns) : flushesOf ns = [] :=
  List.filterMap_eq_nil_iff.mpr fun n hn => Notice.flushed?_eq_none (h n hn)

theorem picksOf (h : Unrelated ns) (id : Nat) : picksOf id ns = [] :=
  List.filterMap_eq_nil_iff.mpr fun n hn => Notice.pickedUp?_eq_none (h n hn) id

theorem countedFlushes (h : Unrelated ns) : countedFlushes ns = 0 := by
  refine List.countP_eq_zero.mpr fun m hm hcounted => ?_
  obtain ⟨n, hn, hmeasured⟩ := List.mem_filterMap.mp hm
  have hrelist := h n hn
  cases n with
  | logged e => cases hmeasured
  | measured m =>
    cases hmeasured
    cases m <;> simp_all [Measurement.counted, Notice.ofRelist]

end Unrelated

section

variable (xs ys : List Notice)

@[simp] theorem flushesOf_append : flushesOf (xs ++ ys) = flushesOf xs ++ flushesOf ys :=
  List.filterMap_append ..

@[simp] theorem picksOf_append (id : Nat) :
    picksOf id (xs ++ ys) = picksOf id xs ++ picksOf id ys :=
  List.filterMap_append ..

@[simp] theorem countedFlushes_append :
    countedFlushes (xs ++ ys) = countedFlushes xs + countedFlushes ys := by
  simp [countedFlushes]

end

/-- A worker that has nothing to do saw what is published. -/
theorem Worker.seen_of_idle {b : Bulletin} {seen : Nat}
    (h : (parked seen).look b = .running (parked seen)) : seen = b.version := by
  by_contra hnews
  rw [look, if_pos hnews] at h
  cases h

namespace Relisting

/-! ### What can happen -/

/-- One thing that the flush task or a worker does. -/
inductive Move (now : Instant) (resources : Nat) (r : Relisting) : List Notice → Relisting → Prop
  | idle : Move now resources r [] r
  | began {period : Span} {ticker : Ticker} (h : r.flush = .running (.spawned period))
      (hafter : Ticker.after now period = .ok ticker) :
      Move now resources r [] { r with flush := .running (.ticking ticker) }
  | flushed {ticker next : Ticker} (h : r.flush = .running (.ticking ticker))
      (hdue : ticker.due ≤ now) (htick : ticker.tick now = .ok next) :
      Move now resources r
        [.measured .cacheFlush, .logged (.flushing (r.bulletin.generation + 1))]
        { r with flush := .running (.ticking next), bulletin := r.bulletin.renew }
  /-- The flush task is over. -/
  | gone {state : Flusher} {task : Task Flusher} {ns : List Notice} (h : r.flush = .running state)
      (hover : task.isRunning = false) (hquiet : Unrelated ns) :
      Move now resources r ns { r with flush := task, bulletin := r.bulletin.close }
  | told {k seen : Nat} (h : r.workers[k]? = some (.running (.parked seen)))
      (hnews : seen ≠ r.bulletin.version) :
      Move now resources r []
        { r with workers := r.workers.set k (.running (.told r.bulletin.version)) }
  | read {k seen : Nat} (h : r.workers[k]? = some (.running (.told seen))) :
      Move now resources r [.logged (.relistPickedUp k r.bulletin.generation resources)]
        { r with workers := r.workers.set k (.running (.parked r.bulletin.version)) }
  | left {k seen : Nat} (h : r.workers[k]? = some (.running (.parked seen))) :
      Move now resources r [] { r with workers := r.workers.set k .ended }

section

variable (r : Relisting) (now : Instant) (resources : Nat)

theorem begin_move : Move now resources r [] (r.begin now) := by
  unfold begin
  split
  · rename_i h
    split
    · rename_i hafter
      exact .began h hafter
    · exact .gone h rfl .nil
  · exact .idle

theorem tick_move : Move now resources r (r.tick now).2 (r.tick now).1 := by
  unfold tick
  split
  · rename_i ticker h
    split
    · rename_i hdue
      split
      · rename_i htick
        exact .flushed h (of_decide_eq_true hdue) htick
      · exact .gone h rfl .nil
    · exact .idle
  · exact .idle

theorem heed_move : Move now resources r r.heed.2 r.heed.1 := by
  unfold heed
  split
  · rename_i h
    exact .gone h rfl (by simp [Unrelated, Notice.ofRelist])
  · exact .idle

theorem set_self {k : Nat} {w : Worker} (h : r.workers[k]? = some (.running w)) :
    { r with workers := r.workers.set k (.running w) } = r := by
  obtain ⟨hlt, hget⟩ := List.getElem?_eq_some_iff.mp h
  rw [← hget, List.set_getElem_self]

theorem move_of_running {k : Nat} {w : Worker} (h : r.workers[k]? = some (.running w))
    (f : Worker → Task Worker × List Notice) :
    r.move k f = ({ r with workers := r.workers.set k (f w).1 }, (f w).2) := by
  rw [move, h]

/-- A worker that goes on does what its own step comes to. -/
theorem worker_move (k : Nat) {f : Worker → Task Worker × List Notice}
    (h : ∀ w, r.workers[k]? = some (.running w) →
      Move now resources r (f w).2 { r with workers := r.workers.set k (f w).1 }) :
    Move now resources r (r.move k f).2 (r.move k f).1 := by
  unfold move
  split
  · rename_i w hw
    exact h w hw
  · exact .idle

theorem look_move (k : Nat) {w : Worker} (h : r.workers[k]? = some (.running w)) :
    Move now resources r [] { r with workers := r.workers.set k (w.look r.bulletin) } := by
  unfold Worker.look
  split
  · split
    · rename_i hnews
      exact .told h hnews
    · split
      · exact .left h
      · rw [set_self r h]
        exact .idle
  · rw [set_self r h]
    exact .idle

theorem read_move (k : Nat) {w : Worker} (h : r.workers[k]? = some (.running w)) :
    Move now resources r (w.read r.bulletin resources k).2
      { r with workers := r.workers.set k (w.read r.bulletin resources k).1 } := by
  cases w with
  | parked seen =>
    show Move now resources r [] { r with workers := r.workers.set k (.running (.parked seen)) }
    rw [set_self r h]
    exact .idle
  | told seen => exact .read h

theorem leave_move (k : Nat) {w : Worker} (h : r.workers[k]? = some (.running w)) :
    Move now resources r [] { r with workers := r.workers.set k w.leave } := by
  cases w with
  | parked seen => exact .left h
  | told seen =>
    show Move now resources r [] { r with workers := r.workers.set k (.running (.told seen)) }
    rw [set_self r h]
    exact .idle

theorem step_move (calledOff : Bool) (a : Action) :
    Move now resources r (r.step now resources calledOff a).2
      (r.step now resources calledOff a).1 := by
  cases a with
  | begin => exact r.begin_move now resources
  | tick => exact r.tick_move now resources
  | heed =>
    rw [step]
    split
    · exact r.heed_move now resources
    · exact .idle
  | look k => exact r.worker_move now resources k fun w hw => r.look_move now resources k hw
  | read k => exact r.worker_move now resources k fun w hw => r.read_move now resources k hw
  | leave k =>
    rw [step]
    split
    · exact r.worker_move now resources k fun w hw => r.leave_move now resources k hw
    · exact .idle

end

/-! ### What is kept -/

/-- What a worker picked up, by the newest generation and by what the worker is at. -/
structure Picked (generation : Nat) (picks : List Nat) (worker : Option (Task Worker)) : Prop where
  increasing : picks.Pairwise (· < ·)
  pos : ∀ g ∈ picks, 0 < g
  le : ∀ g ∈ picks, g ≤ generation
  /-- A worker that waits has picked up the version that it saw last. -/
  parked : ∀ seen, worker = some (.running (.parked seen)) →
    seen ≤ generation ∧ (∀ g ∈ picks, g ≤ seen) ∧
      picks.getLast? = if seen = 0 then none else some seen
  /-- A worker that was told of news did not pick up any of them. -/
  told : ∀ seen, worker = some (.running (.told seen)) →
    0 < seen ∧ seen ≤ generation ∧ ∀ g ∈ picks, g < seen

namespace Picked

variable {generation seen : Nat} {picks : List Nat} {worker : Option (Task Worker)}

theorem start (workers k : Nat) :
    Picked 0 [] (List.replicate workers (.running (.parked 0)))[k]? where
  increasing := .nil
  pos := nofun
  le := nofun
  parked seen h := by
    obtain ⟨hlt, hget⟩ := List.getElem?_eq_some_iff.mp h
    rw [List.getElem_replicate] at hget
    cases hget
    exact ⟨Nat.le_refl _, nofun, rfl⟩
  told seen h := by
    obtain ⟨hlt, hget⟩ := List.getElem?_eq_some_iff.mp h
    rw [List.getElem_replicate] at hget
    cases hget

/-- A newer generation changes nothing for those who do not know of it. -/
theorem renew (h : Picked generation picks worker) : Picked (generation + 1) picks worker where
  increasing := h.increasing
  pos := h.pos
  le g hg := Nat.le_succ_of_le (h.le g hg)
  parked seen hw := by
    obtain ⟨hle, hrest⟩ := h.parked seen hw
    exact ⟨Nat.le_succ_of_le hle, hrest⟩
  told seen hw := by
    obtain ⟨hpos, hle, hrest⟩ := h.told seen hw
    exact ⟨hpos, Nat.le_succ_of_le hle, hrest⟩

theorem tell (h : Picked generation picks (some (.running (.parked seen))))
    (hnews : seen ≠ generation) :
    Picked generation picks (some (.running (.told generation))) where
  increasing := h.increasing
  pos := h.pos
  le := h.le
  parked _ hw := by cases hw
  told _ hw := by
    cases hw
    obtain ⟨hle, hseen, -⟩ := h.parked seen rfl
    have hlt : seen < generation := Nat.lt_of_le_of_ne hle hnews
    exact ⟨Nat.zero_lt_of_lt hlt, Nat.le_refl _, fun g hg => Nat.lt_of_le_of_lt (hseen g hg) hlt⟩

/-- Whatever was published since the worker was told, the newest is one it did not pick up. -/
theorem read (h : Picked generation picks (some (.running (.told seen)))) :
    Picked generation (picks ++ [generation]) (some (.running (.parked generation))) := by
  obtain ⟨hpos, hle, hseen⟩ := h.told seen rfl
  have hlt (g : Nat) (hg : g ∈ picks) : g < generation := Nat.lt_of_lt_of_le (hseen g hg) hle
  have hpos' : 0 < generation := Nat.lt_of_lt_of_le hpos hle
  have hmem (g : Nat) (hg : g ∈ picks ++ [generation]) : g ∈ picks ∨ g = generation := by
    simpa using hg
  have hle' (g : Nat) (hg : g ∈ picks ++ [generation]) : g ≤ generation := by
    rcases hmem g hg with hold | rfl
    · exact h.le g hold
    · exact Nat.le_refl _
  refine ⟨?_, fun g hg => ?_, hle', fun s hs => ?_, fun s hs => by cases hs⟩
  · rw [List.pairwise_append]
    exact ⟨h.increasing, List.pairwise_singleton .., fun g hg n hn => by
      rw [List.mem_singleton.mp hn]
      exact hlt g hg⟩
  · rcases hmem g hg with hold | rfl
    · exact h.pos g hold
    · exact hpos'
  · cases hs
    refine ⟨Nat.le_refl _, hle', ?_⟩
    rw [List.getLast?_concat, if_neg (Nat.ne_of_gt hpos')]

theorem leave (h : Picked generation picks worker) : Picked generation picks (some .ended) :=
  ⟨h.increasing, h.pos, h.le, nofun, nofun⟩

end Picked

/-- When the next generation is due, by how many there were. -/
def Paced (began : Instant) (period : Span) (generation : Nat) : Task Flusher → Prop
  | .running (.spawned p) => p = period ∧ generation = 0
  | .running (.ticking ticker) =>
    ticker.period = period ∧ 0 < period.nanos ∧
      (began + (generation + 1) * period.nanos ≤ ticker.due ∨
        Ticker.horizon began period ≤ ticker.due)
  | _ => True

/-- What is known of the flush task and the workers, and of what was told of them. -/
structure Kept (o : ControllerOptions) (began now : Instant) (r : Relisting) (ns : List Notice) :
    Prop where
  forward : began ≤ now
  size : r.workers.length = o.workers
  version : r.bulletin.version = r.bulletin.generation
  flushes : flushesOf ns = List.range' 1 r.bulletin.generation
  counted : countedFlushes ns = r.bulletin.generation
  paced : Paced began o.cacheFlushInterval r.bulletin.generation r.flush
  bounded : now < Ticker.horizon began o.cacheFlushInterval →
    r.bulletin.generation ≤ (now - began) / o.cacheFlushInterval.nanos
  picked : ∀ k, Picked r.bulletin.generation (picksOf k ns) r.workers[k]?

namespace Kept

variable {o : ControllerOptions} {began now : Instant} {r r' : Relisting} {ns ms : List Notice}
  {resources : Nat}

theorem start (o : ControllerOptions) (now : Instant) (h : Unrelated ns) :
    Kept o now now (Relisting.start o) ns where
  forward := Nat.le_refl _
  size := List.length_replicate
  version := rfl
  flushes := h.flushesOf
  counted := h.countedFlushes
  paced := ⟨rfl, rfl⟩
  bounded _ := Nat.zero_le _
  picked k := by
    rw [h.picksOf]
    exact Picked.start o.workers k

theorem wait (h : Kept o began now r ns) {later : Instant} (hle : now ≤ later) :
    Kept o began later r ns :=
  { h with
    forward := Nat.le_trans h.forward hle
    bounded := fun hbefore =>
      Nat.le_trans (h.bounded (Nat.lt_of_le_of_lt hle hbefore))
        (Nat.div_le_div_right (Nat.sub_le_sub_right hle _)) }

/-- What else is told makes no difference. -/
theorem told (h : Kept o began now r ns) (hms : Unrelated ms) : Kept o began now r (ns ++ ms) :=
  { h with
    flushes := by rw [flushesOf_append, hms.flushesOf, List.append_nil, h.flushes]
    counted := by rw [countedFlushes_append, hms.countedFlushes, Nat.add_zero, h.counted]
    picked := fun k => by
      rw [picksOf_append, hms.picksOf, List.append_nil]
      exact h.picked k }

/-- One worker goes on, and picks something up or not. -/
theorem worker (h : Kept o began now r ns) {k : Nat} {task : Task Worker}
    (hflushes : flushesOf ms = []) (hcounted : countedFlushes ms = 0)
    (hothers : ∀ i, i ≠ k → picksOf i ms = [])
    (hk : k < r.workers.length)
    (hpicked : Picked r.bulletin.generation (picksOf k ns ++ picksOf k ms) (some task)) :
    Kept o began now { r with workers := r.workers.set k task } (ns ++ ms) :=
  { h with
    size := by rw [List.length_set, h.size]
    flushes := by rw [flushesOf_append, hflushes, List.append_nil, h.flushes]
    counted := by rw [countedFlushes_append, hcounted, Nat.add_zero, h.counted]
    picked := fun i => by
      rw [picksOf_append]
      rcases eq_or_ne i k with rfl | hne
      · rwa [List.getElem?_set_self hk]
      · rw [List.getElem?_set_ne hne.symm, hothers i hne, List.append_nil]
        exact h.picked i }

/-- A generation is published, and not before its time. -/
theorem flushed (h : Kept o began now r ns) {ticker next : Ticker}
    (hflush : r.flush = .running (.ticking ticker)) (hdue : ticker.due ≤ now)
    (htick : ticker.tick now = .ok next) :
    Kept o began now { r with flush := .running (.ticking next), bulletin := r.bulletin.renew }
      (ns ++ [.measured .cacheFlush, .logged (.flushing (r.bulletin.generation + 1))]) := by
  have hpaced := h.paced
  rw [hflush] at hpaced
  obtain ⟨hperiod, hpos, hnext⟩ := hpaced
  refine { h with
    version := ?_, flushes := ?_, counted := ?_, paced := ?_, bounded := ?_, picked := ?_ }
  · show r.bulletin.version + 1 = r.bulletin.generation + 1
    rw [h.version]
  · rw [flushesOf_append, h.flushes]
    show _ = List.range' 1 (r.bulletin.generation + 1)
    rw [List.range'_concat, Nat.one_mul, Nat.add_comm 1]
    rfl
  · rw [countedFlushes_append, h.counted]
    rfl
  · rw [← hperiod] at hnext ⊢
    exact ⟨Ticker.period_tick htick, hperiod ▸ hpos, Ticker.due_of_ticks hnext hdue htick⟩
  · intro hbefore
    have hcount : began + (r.bulletin.generation + 1) * o.cacheFlushInterval.nanos ≤ ticker.due :=
      hnext.resolve_right (Nat.not_le.mpr (Nat.lt_of_le_of_lt hdue hbefore))
    refine (Nat.le_div_iff_mul_le hpos).mpr (Nat.le_sub_of_add_le ?_)
    rw [Nat.add_comm]
    exact Nat.le_trans hcount hdue
  · intro k
    rw [picksOf_append]
    show Picked _ (picksOf k ns ++ []) _
    rw [List.append_nil]
    exact (h.picked k).renew

theorem move (h : Kept o began now r ns) (hmove : Move now resources r ms r') :
    Kept o began now r' (ns ++ ms) := by
  cases hmove with
  | idle => exact h.told .nil
  | began hflush hafter =>
    have hpaced := h.paced
    rw [hflush] at hpaced
    obtain ⟨rfl, hnone⟩ := hpaced
    obtain ⟨hperiod, hpos, hdue⟩ := Ticker.after_eq_ok hafter
    refine { h.told .nil with paced := ⟨hperiod, hpos, .inl ?_⟩ }
    rw [hnone, Nat.zero_add, Nat.one_mul, hdue]
    exact Nat.add_le_add_right h.forward _
  | flushed hflush hdue htick => exact h.flushed hflush hdue htick
  | @gone state task ns hflush hover hquiet =>
    refine { h.told hquiet with paced := ?_ }
    cases task with
    | running state => cases hover
    | ended => trivial
    | panicked cause => trivial
  | @told k seen hw hnews =>
    have hpicked := h.picked k
    rw [hw] at hpicked
    refine h.worker rfl rfl (fun _ _ => rfl) (List.getElem?_eq_some_iff.mp hw).1 ?_
    rw [h.version] at hnews ⊢
    simpa [picksOf] using hpicked.tell hnews
  | @read k seen hw =>
    have hpicked := h.picked k
    rw [hw] at hpicked
    refine h.worker rfl rfl (fun i hi => ?_) (List.getElem?_eq_some_iff.mp hw).1 ?_
    · simp [picksOf, Notice.pickedUp?, hi.symm]
    · rw [h.version]
      simpa [picksOf, Notice.pickedUp?] using hpicked.read
  | left hw =>
    refine h.worker rfl rfl (fun _ _ => rfl) (List.getElem?_eq_some_iff.mp hw).1 ?_
    simpa [picksOf] using (h.picked _).leave

end Kept

end Relisting

/-! ### What is told of refreshes and of the stop -/

theorem CrewEvent.notices_append (xs ys : List CrewEvent) :
    notices (xs ++ ys) = notices xs ++ notices ys :=
  List.filterMap_append ..

theorem CrewEvent.notices_seen (es : List RequestEvent) :
    notices (es.map .seen) = es.filterMap RequestEvent.notice? := by
  rw [notices, List.filterMap_map]
  rfl

theorem CrewEvent.notices_say (ns : List Notice) : notices (ns.map say) = ns := by
  rw [notices, List.filterMap_map]
  exact List.filterMap_some

theorem CrewEvent.notices_drew {β : Type} (xs : List β) :
    notices (xs.map fun _ => .drew) = [] := by
  simp [notices, notice?]

theorem RequestLayer.accounted_unrelated (c : Call) (since now : Instant) (reply : Reply) :
    Unrelated (CrewEvent.notices ((accounted c since now reply).map .seen)) := by
  rw [CrewEvent.notices_seen]
  simp [accounted, RequestEvent.notice?, Unrelated, Notice.ofRelist]

section

variable {α : Type} [TokenArithmetic α] (now : Instant)

omit [TokenArithmetic α] in
theorem RequestLayer.reply_unrelated (l : RequestLayer α) (id : RequestId) (reply : Reply) :
    Unrelated (CrewEvent.notices ((l.reply id reply now).2.map .seen)) := by
  unfold RequestLayer.reply
  split
  · exact accounted_unrelated _ _ _ _
  · exact .nil

theorem Controller.report_unrelated (c : Correlator α) (refresh : Refresh) :
    Unrelated (report c now refresh).2 := by
  cases refresh with
  | ok groups => simp [report, Unrelated, Notice.ofRelist]
  | error fault =>
    rw [report, Correlator.allow]
    dsimp only
    cases ((c.bucketAt discoveryObject now).tryTake c.limits now).1 <;>
      simp [Correlator.refusal, Unrelated, Notice.ofRelist]

end

namespace Refreshing

variable {α : Type} [TokenArithmetic α] (r : Refreshing α) (now : Instant)

theorem send_unrelated : Unrelated (CrewEvent.notices (r.send now).2) := by
  unfold send
  split
  · rw [CrewEvent.notices_append, CrewEvent.notices_seen]
    rcases htry : r.layer.limiter.tryAcquire now with ⟨_ | _, limiter⟩
    · rw [RequestLayer.send_refused htry, Limiter.acquire_granted, htry]
      simp [CrewEvent.notices, RequestEvent.notice?, Unrelated, Notice.ofRelist]
    · rw [RequestLayer.send_granted htry, Limiter.acquire_granted, htry]
      simp [CrewEvent.notices, CrewEvent.notice?, Unrelated]
  · exact .nil

omit [TokenArithmetic α] in
theorem handOver_unrelated : Unrelated (CrewEvent.notices (r.handOver now).2) := by
  unfold handOver
  split
  · dsimp only
    split
    · exact .nil
    · exact .nil
    · exact RequestLayer.accounted_unrelated _ _ _ _
  · exact .nil

omit [TokenArithmetic α] in
theorem answer_unrelated (fetched : Fetched) :
    Unrelated (CrewEvent.notices (r.answer now fetched).2) := by
  unfold answer
  split
  · split
    · exact RequestLayer.reply_unrelated now _ _ _
    · exact .nil
  · exact .nil

theorem step_unrelated (calledOff : Bool) (a : Action) :
    Unrelated (CrewEvent.notices (r.step now calledOff a).2) := by
  cases a with
  | begin => exact .nil
  | tick => exact .nil
  | send => exact r.send_unrelated now
  | retry =>
    rw [step, retry]
    split
    · dsimp only
      rw [CrewEvent.notices_drew]
      exact .nil
    · exact .nil
  | handOver => exact r.handOver_unrelated now
  | answer fetched => exact r.answer_unrelated now fetched
  | conclude =>
    rw [step, conclude]
    split
    · dsimp only
      rw [CrewEvent.notices_say]
      exact Controller.report_unrelated now _ _
    · exact .nil
  | heed =>
    rw [step]
    split
    · unfold heed
      split <;> simp [CrewEvent.notices, CrewEvent.say, CrewEvent.notice?, RequestEvent.notice?,
        Unrelated, Notice.ofRelist]
    · exact .nil

end Refreshing

/-! ### Runs of all tasks -/

namespace Crew

variable {α : Type} [TokenArithmetic α]

omit [TokenArithmetic α] in
theorem join_unrelated (s : Crew α) (m : Member) : Unrelated (CrewEvent.notices (s.join m).2) := by
  unfold join
  split
  · split
    · split
      · exact .nil
      · exact .nil
      · simp [CrewEvent.notices, CrewEvent.say, CrewEvent.notice?, RequestEvent.notice?, Unrelated,
          Controller.panicEvent, Notice.ofRelist]
    · exact .nil
  · exact .nil

omit [TokenArithmetic α] in
theorem finish_unrelated (s : Crew α) : Unrelated (CrewEvent.notices s.finish.2) := by
  unfold finish
  split
  · simp [CrewEvent.notices, CrewEvent.say, CrewEvent.notice?, RequestEvent.notice?, Unrelated,
      Notice.ofRelist]
  · exact .nil

/-- Whatever happens, the flush task and the workers do one thing at most, and only what they
do is told of generations. -/
theorem step_move (s : Crew α) (a : Action α) :
    s.now ≤ (s.step a).1.now ∧
      (Relisting.Move s.now s.refreshing.catalog.size s.relisting
          (CrewEvent.notices (s.step a).2) (s.step a).1.relisting ∨
        (s.step a).1.relisting = s.relisting ∧ Unrelated (CrewEvent.notices (s.step a).2)) := by
  cases a with
  | wait nanos => exact ⟨Nat.le_add_right _ _, .inr ⟨rfl, .nil⟩⟩
  | elsewhere layer catalog =>
    rw [step]
    split
    · exact ⟨Nat.le_refl _, .inr ⟨rfl, .nil⟩⟩
    · exact ⟨Nat.le_refl _, .inr ⟨rfl, .nil⟩⟩
  | refresh a =>
    exact ⟨Nat.le_refl _, .inr ⟨rfl, s.refreshing.step_unrelated s.now s.isCalledOff a⟩⟩
  | relist a =>
    refine ⟨Nat.le_refl _, .inl ?_⟩
    rw [step]
    dsimp only
    rw [CrewEvent.notices_say]
    exact s.relisting.step_move s.now s.refreshing.catalog.size s.isCalledOff a
  | stop =>
    rw [step, s.stop_eq]
    exact ⟨Nat.le_refl _, .inr ⟨rfl, .nil⟩⟩
  | join m =>
    rw [step, s.join_eq m]
    exact ⟨Nat.le_refl _, .inr ⟨rfl, s.join_unrelated m⟩⟩
  | finish =>
    rw [step, s.finish_eq]
    exact ⟨Nat.le_refl _, .inr ⟨rfl, s.finish_unrelated⟩⟩

/-- What is known of the flush task and the workers at every time. -/
theorem kept_run (id : RequestId) (limits : RateLimit → Limits α) (client : RateLimit)
    (o : ControllerOptions) (now : Instant) (actions : List (Action α)) :
    let (s, began) := start id limits client o now
    Relisting.Kept o now (s.run actions).1.now (s.run actions).1.relisting
      (CrewEvent.notices (began ++ (s.run actions).2)) := by
  dsimp only [start]
  refine run_induct (P := fun s es => Relisting.Kept o now s.now s.relisting (CrewEvent.notices es))
    ?_ (fun s es a h => ?_) actions
  · exact .start o now (by simp [CrewEvent.notices, CrewEvent.say, CrewEvent.notice?,
      RequestEvent.notice?, Unrelated, Notice.ofRelist])
  · obtain ⟨hforward, hmove⟩ := s.step_move a
    rw [CrewEvent.notices_append]
    rcases hmove with hmove | ⟨hsame, hunrelated⟩
    · exact (h.move hmove).wait hforward
    · rw [hsame]
      exact (h.told hunrelated).wait hforward

/-- What is picked up in a step is what is published then. -/
theorem eq_newest_of_mem_picksOf (s : Crew α) (a : Action α) (worker : Nat) {g : Nat}
    (hg : g ∈ picksOf worker (CrewEvent.notices (s.step a).2)) :
    g = s.relisting.bulletin.generation := by
  obtain ⟨-, hmove | ⟨-, hunrelated⟩⟩ := s.step_move a
  · generalize CrewEvent.notices (s.step a).2 = ns at hg hmove
    generalize (s.step a).1.relisting = r at hmove
    cases hmove with
    | idle | began | told | left => cases hg
    | flushed => cases hg
    | gone _ _ hquiet => rw [hquiet.picksOf] at hg; cases hg
    | read =>
      simp only [picksOf, List.filterMap_cons, Notice.pickedUp?, List.filterMap_nil] at hg
      split at hg
      · cases hg
      · rename_i hsome
        split at hsome
        · cases hsome
          exact List.mem_singleton.mp hg
        · cases hsome
  · rw [hunrelated.picksOf] at hg
    cases hg

/-- A worker that looks for news and reads them has the newest generation then. -/
theorem picks_up_newest (s : Crew α) {worker seen : Nat}
    (h : s.relisting.workers[worker]? = some (.running (.parked seen)))
    (hnews : seen ≠ s.relisting.bulletin.version) :
    picksOf worker (CrewEvent.notices
      (s.run [.relist (.look worker), .relist (.read worker)]).2) =
        [s.relisting.bulletin.generation] := by
  let told : Relisting := { s.relisting with
    workers := s.relisting.workers.set worker (.running (.told s.relisting.bulletin.version)) }
  have hlook : s.relisting.step s.now s.refreshing.catalog.size s.isCalledOff (.look worker) =
      (told, []) := by
    rw [Relisting.step, Relisting.move_of_running s.relisting h, Worker.look, if_pos hnews]
  have htold : told.workers[worker]? = some (.running (.told s.relisting.bulletin.version)) :=
    List.getElem?_set_self (List.getElem?_eq_some_iff.mp h).1
  have hread (now : Instant) (resources : Nat) (calledOff : Bool) :
      (told.step now resources calledOff (.read worker)).2 =
        [.logged (.relistPickedUp worker s.relisting.bulletin.generation resources)] := by
    rw [Relisting.step, Relisting.move_of_running told htold]
    rfl
  simp only [run, step, hlook, hread]
  simp [picksOf, CrewEvent.notices, CrewEvent.say, CrewEvent.notice?, RequestEvent.notice?,
    Notice.pickedUp?]

/-- **Generations.** In every run, the generations that were published are those from one to the
newest, which is also their count in the metrics; and before the horizon, beyond which a tick may
be due that was put off for want of an instant, there are no more of them than whole intervals
since the start.  What each worker picks up goes up, is no more than the newest, and is the newest
when it is picked up.  A worker that waits with nothing to do has the newest one, if there is any;
and one for which there are news picks up the newest when it gets round to it. -/
theorem generations (id : RequestId) (limits : RateLimit → Limits α) (client : RateLimit)
    (o : ControllerOptions) (began : Instant) (actions : List (Action α)) :
    let (start, first) := start id limits client o began
    let s := (start.run actions).1
    let told := CrewEvent.notices (first ++ (start.run actions).2)
    let newest := s.relisting.bulletin.generation
    flushesOf told = List.range' 1 newest ∧
    (∀ r : Registry, (r.recordAll told).count (.cacheFlushes, []) =
      r.count (.cacheFlushes, []) + newest) ∧
    (s.now < Ticker.horizon began o.cacheFlushInterval →
      newest ≤ (s.now - began) / o.cacheFlushInterval.nanos) ∧
    (∀ worker, (picksOf worker told).Pairwise (· < ·) ∧
      ∀ g ∈ picksOf worker told, 0 < g ∧ g ≤ newest) ∧
    (∀ a worker, ∀ g ∈ picksOf worker (CrewEvent.notices (s.step a).2), g = newest) ∧
    (∀ worker seen, s.relisting.workers[worker]? = some (.running (.parked seen)) →
      (Worker.parked seen).look s.relisting.bulletin = .running (.parked seen) →
      (picksOf worker told).getLast? = if newest = 0 then none else some newest) ∧
    (∀ worker seen, s.relisting.workers[worker]? = some (.running (.parked seen)) →
      seen ≠ s.relisting.bulletin.version →
      picksOf worker (CrewEvent.notices
        (s.run [.relist (.look worker), .relist (.read worker)]).2) = [newest]) := by
  have hkept := kept_run id limits client o began actions
  dsimp only [start] at hkept ⊢
  refine ⟨hkept.flushes, fun r => ?_, hkept.bounded, fun worker => ?_,
    fun a worker g hg => eq_newest_of_mem_picksOf _ a worker hg, fun worker seen hw hidle => ?_,
    fun worker seen hw hnews => picks_up_newest _ hw hnews⟩
  · rw [Registry.count_recordAll, ← hkept.counted]
    rfl
  · have hpicked := hkept.picked worker
    exact ⟨hpicked.increasing, fun g hg => ⟨hpicked.pos g hg, hpicked.le g hg⟩⟩
  · obtain ⟨-, -, hlast⟩ := (hkept.picked worker).parked seen hw
    rw [hlast, Worker.seen_of_idle hidle, hkept.version]

end Crew

end ClusterAgent
