/-
The course of the agent's life.

Triggers come at any time and from anywhere, handles come and go, and the
controller and the debug server take their time and may fail.  Whatever comes in
whatever order, what the agent does is the beginning of one course, and what its
journal says is the beginning of one list of five steps.

* `Agent.course` — all that is done in a whole life, calls and records in order;
* `Agent.Stage` — how far a life is, with what was done until then;
* `Agent.History.step` — one input moves a life on by a stage at most;
* `Agent.course_in_order` — what holds of every life at every time.

Design notes: the outcomes of the controller and of the debug server show in the
course by a complaint each, and change nothing else of it.
-/
import ClusterAgent.Agent.Session
import Mathlib.Data.List.Induction

namespace ClusterAgent

/-- What the agent does in its life: it calls on others, it records a step, it complains of
a stage of the teardown. -/
inductive Deed where
  | called (c : AgentCall)
  | recorded (step : String)
  | complained (stage : String)

/-- The deed that an effect is, log entries aside. -/
def AgentEffect.deed? : AgentEffect → Option Deed
  | .call c => some (.called c)
  | .notice (.measured (.lifecycle step)) => some (.recorded step)
  | .notice (.measured (.shutdownError stage)) => some (.complained stage)
  | .notice _ => none

/-- Whether a deed is to stop the controller. -/
def Deed.isStop : Deed → Bool
  | .called .stopController => true
  | _ => false

/-- Whether a deed is to drain the debug server. -/
def Deed.isDrain : Deed → Bool
  | .called (.drainServer ..) => true
  | _ => false

namespace Agent

/-- The deeds among effects. -/
def deeds (effects : List AgentEffect) : List Deed := effects.filterMap AgentEffect.deed?

/-- The record of a step. -/
def stepped (e : LifecycleEvent) : Deed := .recorded e.name

/-- The complaint of a stage that failed. -/
def complaint {ε : Type} (stage : String) : Except ε Unit → List Deed
  | .ok () => []
  | .error _ => [.complained stage]

/-! ### The whole course -/

section

variable (config : Configuration) (server : DebugServer)

/-- The steps of a whole life, with the address that the debug server listens at. -/
def wholeLife (address : Option SocketAddress) : List LifecycleEvent :=
  [.controllerStarted, .debugServerStarted address, .shutdownRequested, .controllerStopped,
    .debugServerStopped]

/-- What is done until the agent waits. -/
def opening : List Deed :=
  [.called (.startController config.controllerOptions), stepped .controllerStarted,
    stepped (.debugServerStarted server.address)]

/-- What is done until the controller is to stop. -/
def courseToStop : List Deed :=
  opening config server ++ [stepped .shutdownRequested, .called .stopController]

/-- What is done until the debug server is to be drained. -/
def courseToDrain (stop : Except StopFault Unit) : List Deed :=
  courseToStop config server ++ complaint "controller" stop ++
    [stepped .controllerStopped, .called (.drainServer server config.shutdownGrace)]

/-- All that is done in a life. -/
def course (stop : Except StopFault Unit) (drain : Except TeardownFault Unit) : List Deed :=
  courseToDrain config server stop ++ complaint "debug_server" drain ++
    [stepped .debugServerStopped]

end

theorem deeds_append (es fs : List AgentEffect) : deeds (es ++ fs) = deeds es ++ deeds fs :=
  List.filterMap_append ..

/-- Binding an address only makes log entries. -/
theorem deeds_bind (binder : Binder) (address : BindAddress) :
    deeds ((DebugServer.bind binder address).2.map .notice) = [] := by
  rw [DebugServer.bind]
  split
  · rfl
  · split <;> rfl

theorem deeds_start (binder : Binder) (address : BindAddress) :
    deeds ((DebugServer.start binder address).2.map .notice) = [] := by
  have hbind := deeds_bind binder address
  rw [DebugServer.start]
  rcases h : DebugServer.bind binder address with ⟨_ | bound, ns⟩ <;>
    rw [h] at hbind <;>
    simp only [List.map_append, deeds_append, hbind] <;> rfl

theorem deeds_serve (a : Agent) (binder : Binder) :
    deeds (a.serve binder).2 =
      [stepped (.debugServerStarted (DebugServer.start binder a.config.debugAddr).1.address)] := by
  have hstart := deeds_start binder a.config.debugAddr
  rw [serve]
  dsimp only
  rw [deeds_append, deeds_append, hstart]
  rfl

theorem deeds_shutDown (a : Agent) (server : DebugServer) :
    deeds (a.shutDown server).2 = [stepped .shutdownRequested, .called .stopController] := by
  rw [shutDown]
  dsimp only
  split <;> rfl

theorem deeds_drainServer (a : Agent) (server : DebugServer) (stop : Except StopFault Unit) :
    deeds (a.drainServer server stop).2 = complaint "controller" stop ++
      [stepped .controllerStopped, .called (.drainServer server a.config.shutdownGrace)] := by
  cases stop <;> rfl

theorem deeds_finish (a : Agent) (drain : Except TeardownFault Unit) :
    deeds (a.finish drain).2 = complaint "debug_server" drain ++ [stepped .debugServerStopped] := by
  cases drain <;> rfl

/-! ### How far a life is -/

section

variable (config : Configuration)

/-- The debug server that was started in the course of some inputs. -/
def Served (xs : List AgentInput) (server : DebugServer) : Prop :=
  ∃ binder, .bound binder ∈ xs ∧ server = (DebugServer.start binder config.debugAddr).1

/-- The controller was told to stop, and then it was heard of. -/
def Stopped (xs : List AgentInput) (stop : Except StopFault Unit) : Prop :=
  ∃ ys zs, xs = ys ++ .stopped stop :: zs ∧
    ∃ server, deeds ((new config).run ys).2 = courseToStop config server

/-- How far a life is after some inputs, with the journal and the effects until then. -/
inductive Stage (xs : List AgentInput) :
    AgentPhase → List LifecycleEvent → List AgentEffect → Prop
  | ready : Stage xs .ready [] []
  | starting : Stage xs .starting [] [.call (.startController config.controllerOptions)]
  | failed {fault : StartFault} : .started (.error fault) ∈ xs →
      Stage xs (.ended (.error fault)) [] [.call (.startController config.controllerOptions)]
  | binding {es : List AgentEffect} :
      deeds es = [.called (.startController config.controllerOptions), stepped .controllerStarted] →
      Stage xs .binding [.controllerStarted] es
  | waiting {es : List AgentEffect} {server : DebugServer} : Served config xs server →
      deeds es = opening config server →
      Stage xs (.waiting server) ((wholeLife server.address).take 2) es
  | stopping {es : List AgentEffect} {server : DebugServer} : Served config xs server →
      .trigger ∈ xs → deeds es = courseToStop config server →
      Stage xs (.stopping server) ((wholeLife server.address).take 3) es
  | draining {es : List AgentEffect} {server : DebugServer} {stop : Except StopFault Unit} :
      Served config xs server → .trigger ∈ xs → Stopped config xs stop →
      deeds es = courseToDrain config server stop →
      Stage xs (.draining server) ((wholeLife server.address).take 4) es
  | ended {es : List AgentEffect} {server : DebugServer} {stop : Except StopFault Unit}
      {drain : Except TeardownFault Unit} :
      Served config xs server → .trigger ∈ xs → Stopped config xs stop → .drained drain ∈ xs →
      deeds es = course config server stop drain →
      Stage xs (.ended (.ok ())) (wholeLife server.address) es

/-- What is known of an agent after some inputs and their effects. -/
structure History (xs : List AgentInput) (a : Agent) (es : List AgentEffect) : Prop where
  config_eq : a.config = config
  /-- The agent keeps a handle of its own. -/
  held : 0 < a.slot.holders
  triggered : a.slot.triggered = true ↔ .trigger ∈ xs
  stage : Stage config xs a.phase a.journal.events es

end

variable {config : Configuration} {xs : List AgentInput} {a : Agent} {es : List AgentEffect}

theorem history_new (config : Configuration) : History config [] (new config) [] where
  config_eq := rfl
  held := Nat.one_pos
  triggered := by simp [new, Slot.new]
  stage := .ready

theorem Served.later {server : DebugServer} (h : Served config xs server) (i : AgentInput) :
    Served config (xs ++ [i]) server := by
  obtain ⟨binder, hbound, hserver⟩ := h
  exact ⟨binder, List.mem_append_left _ hbound, hserver⟩

theorem Stopped.later {stop : Except StopFault Unit} (h : Stopped config xs stop)
    (i : AgentInput) : Stopped config (xs ++ [i]) stop := by
  obtain ⟨ys, zs, rfl, hys⟩ := h
  exact ⟨ys, zs ++ [i], by rw [List.append_assoc, List.cons_append], hys⟩

/-- What happens later does not undo a stage. -/
theorem Stage.later {p : AgentPhase} {j : List LifecycleEvent} (h : Stage config xs p j es)
    (i : AgentInput) : Stage config (xs ++ [i]) p j es := by
  have hmem : ∀ {x : AgentInput}, x ∈ xs → x ∈ xs ++ [i] := fun hx => List.mem_append_left _ hx
  cases h with
  | ready => exact .ready
  | starting => exact .starting
  | failed hf => exact .failed (hmem hf)
  | binding hd => exact .binding hd
  | waiting hs hd => exact .waiting (hs.later i) hd
  | stopping hs ht hd => exact .stopping (hs.later i) (hmem ht) hd
  | draining hs ht hst hd => exact .draining (hs.later i) (hmem ht) (hst.later i) hd
  | ended hs ht hst hdr hd => exact .ended (hs.later i) (hmem ht) (hst.later i) (hmem hdr) hd

/-- What one input does: it changes what others hold at most, or it leads to the next phase. -/
inductive Turn (a : Agent) : AgentInput → Agent × List AgentEffect → Prop
  | outside {i : AgentInput} {slot : Slot} {coordinator : Coordinator}
      (held : 0 < a.slot.holders → 0 < slot.holders)
      (triggered : slot.triggered = true ↔ a.slot.triggered = true ∨ i = .trigger) :
      Turn a i ({ a with slot, coordinator }, [])
  | run : a.phase = .ready → Turn a .run
      ({ a with phase := .starting }, [.call (.startController a.config.controllerOptions)])
  | failed {fault : StartFault} : a.phase = .starting →
      Turn a (.started (.error fault)) ({ a with phase := .ended (.error fault) }, [])
  | started : a.phase = .starting → Turn a (.started (.ok ())) a.bind
  | bound {binder : Binder} : a.phase = .binding → Turn a (.bound binder) (a.serve binder)
  | asked {server : DebugServer} : a.phase = .waiting server → a.slot.ready = true →
      Turn a .look (a.shutDown server)
  | stopped {server : DebugServer} {stop : Except StopFault Unit} : a.phase = .stopping server →
      Turn a (.stopped stop) (a.drainServer server stop)
  | drained {server : DebugServer} {drain : Except TeardownFault Unit} :
      a.phase = .draining server → Turn a (.drained drain) (a.finish drain)

theorem turn (a : Agent) (i : AgentInput) : Turn a i (a.step i) := by
  have idle {i : AgentInput} (hi : i ≠ .trigger) : Turn a i (a, []) :=
    .outside id ⟨.inl, fun h => h.resolve_right hi⟩
  unfold step
  split
  · rename_i hp
    exact .run hp
  · rename_i hp
    exact .started hp
  · rename_i hp
    exact .failed hp
  · rename_i hp
    exact .bound hp
  · exact .outside id (by simp [Slot.trigger])
  · exact .outside (fun _ => Nat.succ_pos _) (by simp)
  · exact .outside (fun _ => Nat.lt_of_lt_of_le Nat.one_pos (Nat.le_max_left 1 _)) (by simp)
  · exact .outside id (by simp)
  · rename_i hp
    split
    · rename_i hready
      exact .asked hp hready
    · exact idle nofun
  · rename_i hp
    exact .stopped hp
  · rename_i hp
    exact .drained hp
  · rename_i hi _ _ _ _ _ _ _ _ _ _
    exact idle hi

theorem Turn.slot {i : AgentInput} {r : Agent × List AgentEffect} (h : Turn a i r) :
    r.1.config = a.config ∧ (0 < a.slot.holders → 0 < r.1.slot.holders) ∧
      (r.1.slot.triggered = true ↔ a.slot.triggered = true ∨ i = .trigger) := by
  cases h with
  | outside held triggered => exact ⟨rfl, held, triggered⟩
  | _ => exact ⟨rfl, id, .inl, fun h => h.resolve_right nofun⟩

/-- A turn leads a life on by a stage at most. -/
theorem Stage.turn (hrun : (new config).run xs = (a, es)) (hconfig : a.config = config)
    (hready : a.slot.ready = true → .trigger ∈ xs)
    (h : Stage config xs a.phase a.journal.events es) {i : AgentInput}
    {r : Agent × List AgentEffect} (hturn : Turn a i r) :
    Stage config (xs ++ [i]) r.1.phase r.1.journal.events (es ++ r.2) := by
  have hnew : i ∈ xs ++ [i] := List.mem_append_right _ (List.mem_singleton_self i)
  have hlater := h.later i
  subst hconfig
  generalize hj : a.journal.events = j at h
  cases hturn with
  | outside =>
    rw [List.append_nil]
    exact hlater
  | run hp =>
    rw [hp] at h
    cases h
    show Stage _ _ .starting a.journal.events _
    rw [hj]
    exact .starting
  | failed hp =>
    rw [hp] at h
    cases h
    show Stage _ _ (.ended _) a.journal.events _
    rw [hj]
    exact .failed hnew
  | started hp =>
    rw [hp] at h
    cases h
    show Stage _ _ .binding (a.journal.events ++ [.controllerStarted]) _
    rw [hj]
    exact .binding rfl
  | @bound binder hp =>
    rw [hp] at h hlater
    cases h with
    | binding hdeeds =>
    show Stage _ _ (.waiting _) (a.journal.events ++ [.debugServerStarted _]) _
    rw [hj]
    refine .waiting ⟨binder, hnew, rfl⟩ ?_
    rw [deeds_append, hdeeds, deeds_serve]
    rfl
  | asked hp hasked =>
    rw [hp] at h
    cases h with
    | waiting hserved hdeeds =>
    show Stage _ _ (.stopping _) (a.journal.events ++ [.shutdownRequested]) _
    rw [hj]
    refine .stopping (hserved.later _) (List.mem_append_left _ (hready hasked)) ?_
    rw [deeds_append, hdeeds, deeds_shutDown]
    rfl
  | @stopped server stop hp =>
    rw [hp] at h
    cases h with
    | stopping hserved htrigger hdeeds =>
    -- The controller is heard of while it is to stop, so it was told to before.
    have hstopped : Stopped a.config (xs ++ [.stopped stop]) stop :=
      ⟨xs, [], rfl, server, by rw [hrun]; exact hdeeds⟩
    show Stage _ _ (.draining _) (a.journal.events ++ [.controllerStopped]) _
    rw [hj]
    refine .draining (hserved.later _) (List.mem_append_left _ htrigger) hstopped ?_
    rw [deeds_append, hdeeds, deeds_drainServer, courseToDrain, List.append_assoc]
  | drained hp =>
    rw [hp] at h
    cases h with
    | draining hserved htrigger hstopped hdeeds =>
    show Stage _ _ (.ended _) (a.journal.events ++ [.debugServerStopped]) _
    rw [hj]
    refine .ended (hserved.later _) (List.mem_append_left _ htrigger) (hstopped.later _) hnew ?_
    rw [deeds_append, hdeeds, deeds_finish, course, List.append_assoc]

/-- **One input.** What is known of an agent stays known. -/
theorem History.step (hrun : (new config).run xs = (a, es)) (h : History config xs a es)
    (i : AgentInput) : History config (xs ++ [i]) (a.step i).1 (es ++ (a.step i).2) := by
  obtain ⟨hconfig, hheld, htriggered, hstage⟩ := h
  obtain ⟨hconfig', hheld', htriggered'⟩ := (turn a i).slot
  refine ⟨hconfig'.trans hconfig, hheld' hheld, ?_, ?_⟩
  · rw [htriggered', htriggered, List.mem_append, List.mem_singleton, eq_comm (a := i)]
  · refine hstage.turn hrun hconfig (fun hready => htriggered.mp ?_) (turn a i)
    -- The agent's own handle is there, so only a trigger makes the slot ready.
    simpa [Slot.ready, Nat.ne_of_gt hheld] using hready

theorem history_run (config : Configuration) (xs : List AgentInput) :
    History config xs ((new config).run xs).1 ((new config).run xs).2 := by
  induction xs using List.reverseRecOn with
  | nil => exact history_new config
  | append_singleton xs i ih =>
    have hstep := ih.step rfl i
    rw [run_append]
    simpa [run] using hstep

/-! ### Lives in order -/

section

variable (config : Configuration) (server : DebugServer) (stop : Except StopFault Unit)
  (drain : Except TeardownFault Unit)

theorem courseToDrain_begins :
    courseToDrain config server stop <+: course config server stop drain := by
  rw [course, List.append_assoc]
  exact List.prefix_append _ _

theorem courseToStop_begins : courseToStop config server <+: course config server stop drain := by
  refine List.IsPrefix.trans ?_ (courseToDrain_begins config server stop drain)
  rw [courseToDrain, List.append_assoc]
  exact List.prefix_append _ _

theorem opening_begins : opening config server <+: course config server stop drain :=
  (List.prefix_append _ _).trans (courseToStop_begins config server stop drain)

/-- The controller is to stop once in a life. -/
theorem countP_isStop_course : (course config server stop drain).countP Deed.isStop = 1 := by
  cases stop <;> cases drain <;> rfl

end

/-- At every stage a life is the beginning of a whole one. -/
theorem Stage.isPrefix {p : AgentPhase} {j : List LifecycleEvent} (h : Stage config xs p j es) :
    ∃ server stop drain, j <+: wholeLife server.address ∧
      deeds es <+: course config server stop drain := by
  have hopening := opening_begins config ⟨none⟩ (.ok ()) (.ok ())
  cases h with
  | ready => exact ⟨⟨none⟩, .ok (), .ok (), List.nil_prefix, List.nil_prefix⟩
  | starting | failed =>
    exact ⟨⟨none⟩, .ok (), .ok (), List.nil_prefix, List.IsPrefix.trans ⟨_, rfl⟩ hopening⟩
  | binding hd =>
    rw [hd]
    exact ⟨⟨none⟩, .ok (), .ok (), ⟨_, rfl⟩, List.IsPrefix.trans ⟨_, rfl⟩ hopening⟩
  | @waiting _ server _ hd =>
    rw [hd]
    exact ⟨server, .ok (), .ok (), List.take_prefix _ _, opening_begins config server _ _⟩
  | @stopping _ server _ _ hd =>
    rw [hd]
    exact ⟨server, .ok (), .ok (), List.take_prefix _ _, courseToStop_begins config server _ _⟩
  | @draining _ server stop _ _ _ hd =>
    rw [hd]
    exact ⟨server, stop, .ok (), List.take_prefix _ _, courseToDrain_begins config server stop _⟩
  | @ended _ server stop drain _ _ _ _ hd =>
    rw [hd]
    exact ⟨server, stop, drain, List.prefix_rfl, List.prefix_rfl⟩

/-- Shutdown is requested by a trigger only. -/
theorem Stage.triggered {p : AgentPhase} {j : List LifecycleEvent} (h : Stage config xs p j es)
    (hj : .shutdownRequested ∈ j) : .trigger ∈ xs := by
  cases h with
  | ready | starting | failed | binding | waiting => simp [wholeLife] at hj
  | stopping _ htrigger | draining _ htrigger | ended _ htrigger => exact htrigger

/-- The controller is told to stop after the request is in the journal. -/
theorem Stage.requested {p : AgentPhase} {j : List LifecycleEvent} (h : Stage config xs p j es)
    (hstop : (deeds es).any Deed.isStop = true) : .shutdownRequested ∈ j := by
  cases h with
  | ready | starting | failed => exact absurd hstop Bool.false_ne_true
  | binding hdeeds | waiting _ hdeeds =>
    rw [hdeeds] at hstop
    exact absurd hstop Bool.false_ne_true
  | stopping | draining | ended => simp [wholeLife]

/-- The debug server is told to drain after the controller was heard of. -/
theorem Stage.stopped {p : AgentPhase} {j : List LifecycleEvent} (h : Stage config xs p j es)
    (hdrain : (deeds es).any Deed.isDrain = true) : ∃ stop, Stopped config xs stop := by
  cases h with
  | ready | starting | failed => exact absurd hdrain Bool.false_ne_true
  | binding hdeeds | waiting _ hdeeds | stopping _ _ hdeeds =>
    rw [hdeeds] at hdrain
    exact absurd hdrain Bool.false_ne_true
  | draining _ _ hstopped | ended _ _ hstopped => exact ⟨_, hstopped⟩

/-- A life that began ends well, with everything done. -/
theorem Stage.complete {result : Except StartFault Unit} {j : List LifecycleEvent}
    (h : Stage config xs (.ended result) j es) (hj : .controllerStarted ∈ j) :
    result = .ok () ∧ ∃ server stop drain, Served config xs server ∧ Stopped config xs stop ∧
      .drained drain ∈ xs ∧ j = wholeLife server.address ∧
      deeds es = course config server stop drain := by
  cases h with
  | failed => cases hj
  | ended hserved _ hstopped hdrained hdeeds =>
    exact ⟨rfl, _, _, _, hserved, hstopped, hdrained, rfl, hdeeds⟩

theorem Stage.fruitless {fault : StartFault} {j : List LifecycleEvent}
    (h : Stage config xs (.ended (.error fault)) j es) :
    j = [] ∧ es = [.call (.startController config.controllerOptions)] := by
  cases h
  exact ⟨rfl, rfl⟩

theorem result?_eq_some_iff {result : Except StartFault Unit} :
    a.result? = some result ↔ a.phase = .ended result := by
  rw [result?]
  split <;> simp_all

theorem Turn.ended {i : AgentInput} {r : Agent × List AgentEffect} (h : Turn a i r)
    {result : Except StartFault Unit} (hp : a.phase = .ended result) :
    r.1.phase = .ended result := by
  cases h with
  | outside => exact hp
  | run hq | failed hq | started hq | bound hq | asked hq | stopped hq | drained hq =>
    rw [hp] at hq
    cases hq

/-- The end is final. -/
theorem run_ended {result : Except StartFault Unit} (h : a.phase = .ended result)
    (zs : List AgentInput) : (a.run zs).1.phase = .ended result := by
  induction zs generalizing a with
  | nil => exact h
  | cons i zs ih => exact ih ((turn a i).ended h)

/-- **The life of the agent.** For every sequence of inputs, at every time:
the journal and the deeds are the beginning of a whole life; only a trigger ends the wait, and
no trigger is lost; the controller is told to stop once at most, and not before the request is
in the journal; the debug server is told to drain not before the controller was heard of; a
controller that did not start ends the life with nothing in the journal and nothing else done;
and otherwise the life ends well with everything done, whatever failed. -/
theorem course_in_order (config : Configuration) (xs : List AgentInput) :
    let a := ((new config).run xs).1
    let effects := ((new config).run xs).2
    (∃ server stop drain, a.journal.events <+: wholeLife server.address ∧
      deeds effects <+: course config server stop drain) ∧
    (.shutdownRequested ∈ a.journal.events → .trigger ∈ xs) ∧
    (∀ server, a.phase = .waiting server → .trigger ∈ xs →
      (a.step .look).1.journal.events = a.journal.events ++ [.shutdownRequested] ∧
        deeds (a.step .look).2 = [stepped .shutdownRequested, .called .stopController]) ∧
    (deeds effects).countP Deed.isStop ≤ 1 ∧
    ((deeds effects).any Deed.isStop = true → .shutdownRequested ∈ a.journal.events) ∧
    ((deeds effects).any Deed.isDrain = true → ∃ stop, Stopped config xs stop) ∧
    (∀ ys zs fault, xs = ys ++ .started (.error fault) :: zs →
      ((new config).run ys).1.phase = .starting →
      a.result? = some (.error fault) ∧ a.journal.events = [] ∧
        effects = [.call (.startController config.controllerOptions)]) ∧
    (.controllerStarted ∈ a.journal.events → ∀ result, a.result? = some result →
      result = .ok () ∧ ∃ server stop drain, Served config xs server ∧ Stopped config xs stop ∧
        .drained drain ∈ xs ∧ a.journal.events = wholeLife server.address ∧
        deeds effects = course config server stop drain) := by
  intro a effects
  obtain ⟨-, -, htriggered, hstage⟩ := history_run config xs
  refine ⟨hstage.isPrefix, hstage.triggered, ?_, ?_, hstage.requested, hstage.stopped, ?_, ?_⟩
  · intro server hp htrigger
    have hready : a.slot.ready = true := by simp [Slot.ready, a, htriggered.mpr htrigger]
    have hlook : a.step .look = a.shutDown server := by simp [Agent.step, hp, hready]
    rw [hlook]
    exact ⟨rfl, deeds_shutDown a server⟩
  · obtain ⟨server, stop, drain, -, hdeeds⟩ := hstage.isPrefix
    rw [← countP_isStop_course config server stop drain]
    exact hdeeds.sublist.countP_le
  · rintro ys zs fault rfl hp
    have hended : a.phase = .ended (.error fault) := by
      have hfailed : (((new config).run ys).1.step (.started (.error fault))).1.phase =
          .ended (.error fault) := by simp [Agent.step, hp]
      show ((new config).run (ys ++ _ :: zs)).1.phase = _
      rw [run_append]
      exact run_ended hfailed zs
    change Stage config _ a.phase a.journal.events effects at hstage
    rw [hended] at hstage
    exact ⟨result?_eq_some_iff.mpr hended, hstage.fruitless⟩
  · intro hstarted result hresult
    change Stage config xs a.phase a.journal.events effects at hstage
    rw [result?_eq_some_iff.mp hresult] at hstage
    exact hstage.complete hstarted

end Agent

end ClusterAgent
