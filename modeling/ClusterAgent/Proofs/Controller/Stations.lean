/-
A station does what a controller can do.

A station does at once everything that is due at a millisecond.  The same comes of a run
of its controller in which each task takes its turns in a certain order.

* `ControllerRun.Reaches` — a run leads from one state to another;
* `Station.settle_reaches`, `Station.advance_reaches` — what a station does is such a run;
* `Station.stops_ok_of_fits` — so a station with an accepted configuration stops well at
  any time, if the sums of instants and intervals fit the clock.
-/
import ClusterAgent.Controller.Station
import ClusterAgent.Proofs.Controller.Panics
import ClusterAgent.Proofs.Time.Passing

namespace ClusterAgent

namespace Relist

theorem look_congr {r s : Relist} (hgeneration : s.generation = r.generation)
    (hclosed : s.closed = r.closed) (resources id : Nat) (w : Task Nat) :
    s.look resources id w = r.look resources id w := by
  cases w with
  | running seen => rw [look, look, hgeneration, hclosed]
  | ended => rfl
  | panicked cause => rfl

/-- Some workers look for a newer generation, one after the other. -/
def wakeEach (r : Relist) (resources : Nat) (ids : List Nat) : Relist :=
  ids.foldl (fun r id => (r.wake resources id).1) r

/-- Each of the workers below a number sees what it would see alone. -/
theorem wakeEach_range (r : Relist) (resources n : Nat) :
    (r.wakeEach resources (List.range n)).generation = r.generation ∧
    (r.wakeEach resources (List.range n)).closed = r.closed ∧
    ∀ i, (r.wakeEach resources (List.range n)).workers[i]? =
      if i < n then r.workers[i]?.map fun w => (r.look resources i w).1 else r.workers[i]? := by
  induction n with
  | zero => exact ⟨rfl, rfl, fun i => rfl⟩
  | succ n ih =>
    have hsucc : r.wakeEach resources (List.range (n + 1)) =
        ((r.wakeEach resources (List.range n)).wake resources n).1 := by
      rw [wakeEach, List.range_succ, List.foldl_append]
      rfl
    rw [hsucc]
    generalize r.wakeEach resources (List.range n) = s at ih ⊢
    obtain ⟨hgeneration, hclosed, hworkers⟩ := ih
    have hn : s.workers[n]? = r.workers[n]? := by rw [hworkers, if_neg (lt_irrefl n)]
    unfold wake
    cases hget : s.workers[n]? with
    | none =>
      refine ⟨hgeneration, hclosed, fun i => ?_⟩
      show s.workers[i]? = _
      rcases eq_or_ne i n with rfl | hne
      · rw [if_pos (Nat.lt_succ_self i), ← hn, hget]
        rfl
      · rw [hworkers]
        simp only [Nat.lt_succ_iff_lt_or_eq, hne, or_false]
    | some w =>
      refine ⟨hgeneration, hclosed, fun i => ?_⟩
      show (s.workers.set n (s.look resources n w).1)[i]? = _
      rcases eq_or_ne n i with rfl | hne
      · have hlt : n < s.workers.length := (List.getElem?_eq_some_iff.mp hget).1
        rw [List.getElem?_set_self hlt, if_pos (Nat.lt_succ_self n), ← hn, hget,
          look_congr hgeneration hclosed]
        rfl
      · rw [List.getElem?_set_ne hne, hworkers]
        simp only [Nat.lt_succ_iff_lt_or_eq, hne.symm, or_false]

theorem wakeAll_eq (r : Relist) (resources : Nat) :
    (r.wakeAll resources).1 = r.wakeEach resources (List.range r.workers.length) := by
  obtain ⟨hgeneration, hclosed, hworkers⟩ := r.wakeEach_range resources r.workers.length
  generalize r.wakeEach resources (List.range r.workers.length) = s at *
  obtain ⟨generation, workers, closed⟩ := s
  dsimp only at hgeneration hclosed hworkers
  subst hgeneration hclosed
  have hall : (r.wakeAll resources).1.workers = workers := by
    refine List.ext_getElem? fun i => ?_
    rw [hworkers i]
    by_cases hi : i < r.workers.length
    · simp [wakeAll, hi]
    · simp [wakeAll, hi]
  rw [← hall]
  rfl

end Relist

namespace Controller

variable {α : Type} {r : Controller α} {ticker : Ticker} {plan : Plan Refresh}

theorem proceed_eq (h : r.inquiry? = some (ticker, plan)) (next : Plan Refresh) :
    r.proceed next = { r with discovery := Task.running (.inquiring ticker next) } := by
  rw [proceed, h]

theorem inquiry?_proceed (h : r.inquiry? = some (ticker, plan)) (next : Plan Refresh) :
    (r.proceed next).inquiry? = some (ticker, next) := by
  rw [proceed_eq h]
  rfl

theorem proceed_self (h : r.inquiry? = some (ticker, plan)) : r.proceed plan = r := by
  rw [proceed_eq h, ← discovery_of_inquiry? h]

theorem proceed_proceed (h : r.inquiry? = some (ticker, plan)) (p q : Plan Refresh) :
    (r.proceed p).proceed q = r.proceed q := by
  rw [proceed_eq (inquiry?_proceed h p), proceed_eq h, proceed_eq h]

end Controller

/-- A plan that asks stands still, or goes on by the answer. -/
theorem Plan.attend_ask {α β : Type} [TokenArithmetic α] (answer : String → Fetched)
    (id : RequestId) (now : Instant) (path : String) (resume : Fetched → Plan β) (asked : Bool)
    (layer : RequestLayer α) :
    ((Plan.ask path resume).attend answer id now asked layer).2.2 = .ask path resume ∨
    ∃ later : RequestLayer α, ((Plan.ask path resume).attend answer id now asked layer).2.2 =
      ((resume (answer path)).attend answer id now false later).2.2 := by
  rw [attend]
  dsimp only
  generalize (if asked = true then (layer, []) else layer.send (Call.onBehalf id path) now) = p
  split
  · exact .inr ⟨_, rfl⟩
  · exact .inl rfl

namespace ControllerRun

variable {α : Type} [TokenArithmetic α]

/-- A run leads from one state to another. -/
def Reaches (s t : ControllerRun α) : Prop := ∃ actions, (s.run actions).1 = t

theorem Reaches.refl (s : ControllerRun α) : s.Reaches s := ⟨[], rfl⟩

theorem Reaches.trans {s t u : ControllerRun α} (hst : s.Reaches t) (htu : t.Reaches u) :
    s.Reaches u := by
  obtain ⟨xs, rfl⟩ := hst
  obtain ⟨ys, rfl⟩ := htu
  exact ⟨xs ++ ys, by rw [run_append]⟩

theorem Reaches.step (s : ControllerRun α) (a : Action) : s.Reaches (s.step a).1 := ⟨[a], rfl⟩

/-- Carrying a plan on is answering what it asks for. -/
theorem reaches_attend (answer : String → Fetched) (id : RequestId) (now : Instant)
    {ticker : Ticker}
    (plan : Plan Refresh) (asked : Bool) (layer : RequestLayer α) (s : ControllerRun α)
    (h : s.controller.inquiry? = some (ticker, plan)) :
    s.Reaches { s with controller :=
      s.controller.proceed (plan.attend answer id now asked layer).2.2 } := by
  induction plan generalizing asked layer s with
  | done result =>
    have hstill : s.controller.proceed (.done result) = s.controller :=
      Controller.proceed_self h
    rw [Plan.attend, hstill]
    exact .refl s
  | ask path resume ih =>
    rcases Plan.attend_ask answer id now path resume asked layer with hstill | ⟨later, hon⟩
    · rw [hstill, Controller.proceed_self h]
      exact .refl s
    · have hstep := Reaches.step s (.answer (answer path))
      have hhear : s.controller.hear (answer path) =
          s.controller.proceed (resume (answer path)) := by
        rw [Controller.hear, h]
      have hrest := ih (answer path) false later (s.step (.answer (answer path))).1 (by
        show (s.controller.hear (answer path)).inquiry? = _
        rw [hhear]
        exact Controller.inquiry?_proceed h _)
      have hlast : (s.step (.answer (answer path))).1.controller.proceed
          ((resume (answer path)).attend answer id now false later).2.2 =
          s.controller.proceed ((resume (answer path)).attend answer id now false later).2.2 := by
        show (s.controller.hear (answer path)).proceed _ = _
        rw [hhear]
        exact Controller.proceed_proceed h _ _
      rw [hlast] at hrest
      rw [hon]
      exact hstep.trans hrest

theorem reaches_wakeEach (s : ControllerRun α) (ids : List Nat) :
    s.Reaches { s with controller := { s.controller with
      relist := s.controller.relist.wakeEach s.catalog.size ids } } := by
  induction ids generalizing s with
  | nil => exact .refl s
  | cons id ids ih => exact (Reaches.step s (.pickUp id)).trans (ih _)

end ControllerRun

namespace Station

variable {α : Type} [TokenArithmetic α]

open ControllerRun (Reaches)

/-- A station with this controller only, and its catalog. -/
structure Houses (s : Station α) (t : ControllerRun α) : Prop where
  controllers : s.controllers = [t.controller]
  catalog : s.catalog = t.catalog

theorem inquire_reaches (answer : String → Fetched) (asked : Bool) (s : Station α)
    (t : ControllerRun α) (hone : s.controllers.length = 1) (hcatalog : s.catalog = t.catalog) :
    ∃ u, t.Reaches u ∧ u.now = t.now ∧
      (inquire answer t.now 0 t.controller asked s).1.Houses u := by
  obtain ⟨old, hold⟩ := List.length_eq_one_iff.mp hone
  unfold inquire
  cases hask : t.controller.inquiry? with
  | none =>
    refine ⟨t, .refl t, rfl, ?_, hcatalog⟩
    show s.controllers.set 0 t.controller = _
    rw [hold]
    rfl
  | some p =>
    obtain ⟨ticker, plan⟩ := p
    have hreach := ControllerRun.reaches_attend answer 0 t.now plan asked s.layer t hask
    refine ⟨_, hreach.trans (.step _ .conclude), rfl, ?_, ?_⟩
    · show s.controllers.set 0 _ = _
      rw [hold, hcatalog]
      rfl
    · show (Controller.conclude _ s.catalog t.now).2.1 = _
      rw [hcatalog]
      rfl

theorem discover_reaches (answer : String → Fetched) (fuel : Nat) (s : Station α)
    (t : ControllerRun α) (h : s.Houses t) :
    ∃ u, t.Reaches u ∧ u.now = t.now ∧ (discover answer t.now 0 fuel s).1.Houses u := by
  induction fuel generalizing s t with
  | zero => exact ⟨t, .refl t, rfl, h⟩
  | succ fuel ih =>
    obtain ⟨hcontrollers, hcatalog⟩ := h
    have htick := Reaches.step t .tickDiscovery
    have hget : s.controllers[0]? = some t.controller := by rw [hcontrollers]; rfl
    unfold discover
    rw [hget]
    dsimp only
    split
    · refine ⟨_, htick, rfl, ?_, hcatalog⟩
      show s.controllers.set 0 _ = _
      rw [hcontrollers]
      rfl
    · have hone : s.controllers.length = 1 := by rw [hcontrollers]; rfl
      obtain ⟨u, hreach, hnow, hhouses⟩ := inquire_reaches answer
        (s.layer.sent.any (·.1.id == 0)) s (t.step .tickDiscovery).1 hone hcatalog
      obtain ⟨v, hreach', hnow', hhouses'⟩ := ih _ u hhouses
      rw [hnow] at hnow' hhouses'
      exact ⟨v, (htick.trans hreach).trans hreach', hnow', hhouses'⟩

omit [TokenArithmetic α] in
theorem flushes_succ (now : Instant) (fuel : Nat) (r : Controller α) :
    (flushes now (fuel + 1) r).1 = r ∨
      (flushes now (fuel + 1) r).1 = (flushes now fuel (r.tickFlush now).1).1 := by
  rw [flushes]
  split
  · split
    · exact .inr rfl
    · exact .inl rfl
  · exact .inl rfl

theorem flushes_reaches (fuel : Nat) (t : ControllerRun α) :
    t.Reaches { t with controller := (flushes t.now fuel t.controller).1 } := by
  induction fuel generalizing t with
  | zero => exact .refl t
  | succ fuel ih =>
    rcases flushes_succ t.now fuel t.controller with hstay | hon
    · rw [hstay]
      exact .refl t
    · rw [hon]
      exact (Reaches.step t .tickFlush).trans (ih _)

theorem work_reaches (answer : String → Fetched) (s : Station α) (t : ControllerRun α)
    (h : s.Houses t) :
    ∃ u, t.Reaches u ∧ u.now = t.now ∧ (work answer t.now 0 s).1.Houses u := by
  have hget : s.controllers[0]? = some t.controller := by rw [h.controllers]; rfl
  obtain ⟨u, hreach, hnow, hhouses⟩ :=
    discover_reaches answer (discoveryBacklog t.controller t.now) s t h
  unfold work
  rw [hget]
  dsimp only
  generalize discover answer t.now 0 (discoveryBacklog t.controller t.now) s = discovered
    at hhouses ⊢
  have hget' : discovered.1.controllers[0]? = some u.controller := by
    rw [hhouses.controllers]
    rfl
  rw [hget']
  have hflush := flushes_reaches (flushBacklog u.controller u.now) u
  -- Whoever works after the flushes is woken in the order of the workers.
  set flushed := (flushes u.now (flushBacklog u.controller u.now) u.controller).1 with hflushed
  have hwake := ControllerRun.reaches_wakeEach { u with controller := flushed }
    (List.range flushed.relist.workers.length)
  refine ⟨_, (hreach.trans hflush).trans hwake, hnow, ?_, hhouses.catalog⟩
  show discovered.1.controllers.set 0 _ = _
  rw [hhouses.controllers, hhouses.catalog, ← hnow, ← hflushed, ← Relist.wakeAll_eq]
  rfl

/-- Everything that is due at a millisecond is a run of the controller. -/
theorem settle_reaches (answer : String → Fetched) (ms : Nat) (s : Station α)
    (t : ControllerRun α) (h : s.Houses t) (hnow : t.now = Clock.instantOf ms) :
    ∃ u, t.Reaches u ∧ u.now = t.now ∧ (settle answer ms s).1.Houses u := by
  have hone : List.range s.controllers.length = [0] := by rw [h.controllers]; rfl
  unfold settle
  dsimp only
  rw [hone, ← hnow]
  exact work_reaches answer _ t ⟨h.controllers, h.catalog⟩

/-- And so is what is done while time passes. -/
theorem advance_reaches (answer : String → Fetched) {now target : Nat} (hle : now ≤ target)
    (s : Station α) (t : ControllerRun α) (h : s.Houses t) (hnow : t.now = Clock.instantOf now) :
    ∃ u, t.Reaches u ∧ u.now = Clock.instantOf target ∧
      (advance answer now target s).1.Houses u := by
  refine Clock.pass_induct (motive := fun now (s : Station α) (result : Station α × List Notice) =>
    ∀ t : ControllerRun α, s.Houses t → t.now = Clock.instantOf now →
      ∃ u, t.Reaches u ∧ u.now = Clock.instantOf target ∧ result.1.Houses u) ?_ ?_ hle s t h hnow
  · intro s t h hnow
    exact ⟨t, .refl t, hnow, h⟩
  · intro now ms s rest hlt _ _ ih t h hnow
    have hforward : t.now ≤ Clock.instantOf ms := by
      rw [hnow]
      unfold Clock.instantOf
      exact Nat.mul_le_mul_right nanosPerMilli hlt.le
    obtain ⟨d, hd⟩ := Nat.exists_eq_add_of_le hforward
    have hwait := Reaches.step t (.wait d)
    obtain ⟨u, hsettle, hnowu, hhouses⟩ := settle_reaches answer ms s (t.step (.wait d)).1
      ⟨h.controllers, h.catalog⟩ hd.symm
    obtain ⟨v, hrest, hnowv, hhousesv⟩ := ih u hhouses (hnowu.trans hd.symm)
    exact ⟨v, (hwait.trans hsettle).trans hrest, hnowv, hhousesv⟩

/-- The tasks run as soon as they are spawned, and then do what is due. -/
theorem start_eq (answer : String → Fetched) (limits : RateLimit → Limits α)
    (o : ControllerOptions) (ms : Nat) (s : Station α) :
    (s.start answer limits o ms).1 = (settle answer ms { s with
      controllers :=
        s.controllers ++ [(Controller.start limits o).1.begin (Clock.instantOf ms)] }).1 := by
  rw [start]

theorem start_reaches (answer : String → Fetched) (limits : RateLimit → Limits α)
    (limiter : Limiter α) (o : ControllerOptions) (ms : Nat) :
    ∃ u, (ControllerRun.start limits o (Clock.instantOf ms)).1.Reaches u ∧
      u.now = Clock.instantOf ms ∧ ((new limiter).start answer limits o ms).1.Houses u := by
  set spawned := (ControllerRun.start limits o (Clock.instantOf ms)).1
  have hdiscovery := Reaches.step spawned .beginDiscovery
  have hbegun := hdiscovery.trans (Reaches.step _ .beginFlush)
  obtain ⟨u, hsettle, hnow, hhouses⟩ := settle_reaches answer ms
    { new limiter with controllers := [spawned.controller.begin (Clock.instantOf ms)] }
    ((spawned.step .beginDiscovery).1.step .beginFlush).1 ⟨rfl, rfl⟩ rfl
  refine ⟨u, hbegun.trans hsettle, hnow, ?_⟩
  rw [start_eq]
  exact hhouses

omit [TokenArithmetic α] in
theorem Houses.stop {s : Station α} {t : ControllerRun α} (h : s.Houses t) {ms : Nat}
    (hnow : t.now = Clock.instantOf ms) : (s.stop ms 0).2.1 = t.outcome := by
  have hget : s.controllers[0]? = some t.controller := by rw [h.controllers]; rfl
  rw [Station.stop, hget, ControllerRun.outcome, hnow]

theorem stops_ok_of_fits {f : Flags} {c : Configuration} (h : f.resolve = .ok c)
    (limits : RateLimit → Limits α) (limiter : Limiter α) (answer : String → Fetched)
    {ms target : Nat} (hle : ms ≤ target)
    (hfits : c.controllerOptions.Fits (Clock.instantOf ms) (Clock.instantOf target)) :
    ((((new limiter).start answer limits c.controllerOptions ms).1.advance answer ms target).1.stop
      target 0).2.1 = .ok () := by
  obtain ⟨t, hstart, hnow, hhouses⟩ := start_reaches answer limits limiter c.controllerOptions ms
  obtain ⟨u, hadvance, hnowu, hhousesu⟩ := advance_reaches answer hle _ t hhouses hnow
  obtain ⟨actions, rfl⟩ := hstart.trans hadvance
  rw [hhousesu.stop hnowu]
  obtain ⟨hd, hf⟩ := Flags.isZero_of_resolve h
  rw [← hnowu] at hfits
  exact ControllerRun.outcome_of_fits hd hf actions hfits

end Station

end ClusterAgent
