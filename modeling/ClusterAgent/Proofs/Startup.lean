/-
The program fails fast.

Flags, credentials, signals, controller and debug server come in this order, and a stage
is reached only if all before it went well.  So the first that fails decides how the
program ends, and what any later one would have done is nothing to it.

* `Flags.loaderCall` — the one way to credentials that is taken;
* `StartupFault.exitCode`, `StartupFault.lastWords` — how the program ends on a fault;
* `Session.handle_run_failed`, `Session.handle_run_started` — a session whose controller did
  not start, and one whose controller did;
* `Program.fails_fast` — each of the five stages, with all calls and effects;
* `Program.crash_of_broken_token` — a controller that does not start, and a program that
  neither says so nor exits with a failure.

Design notes: that a stage has no effect is said twice.  Calls and effects are given whole;
and another provision, which agrees on what came before, comes to the same.
-/
import ClusterAgent.Program
import ClusterAgent.Proofs.Config.Resolution

namespace ClusterAgent

variable {α : Type} [TokenArithmetic α]

/-- The one way to credentials that is taken: no path stands for the ambient ones. -/
def Flags.loaderCall (f : Flags) : LoaderCall :=
  if f.clientConfigPath = "" then .inCluster else .kubeconfig f.clientConfigPath

namespace StartupFault

/-- The exit code on a fault. -/
def exitCode (fault : StartupFault) : ExitCode := if fault.isFatal then .crash else .failure

/-- What is still said on a fault. -/
def lastWords (fault : StartupFault) : List AgentEffect :=
  if fault.isFatal then [] else [.notice (.logged (.terminating fault.message))]

end StartupFault

omit [TokenArithmetic α] in
theorem Program.abort_eq (fault : StartupFault) :
    abort (α := α) fault = (.exited fault.exitCode, fault.lastWords) := by
  rw [abort, StartupFault.exitCode, StartupFault.lastWords]
  split <;> rfl

/-! ### Controllers -/

namespace Engine

variable (around : Surroundings) (ms : Nat)

/-- Start the controller. -/
def startup (access : ClusterAccess) (o : ControllerOptions) :
    Engine α → Engine α × Except StartFault Unit × List Notice
  | .scripted starts stops milliseconds => (.scripted starts stops milliseconds, starts, [])
  | .builtin limits station =>
    let (station, outcome, ns) := station.launch around.environment access around.answer limits o ms
    (.builtin limits station, outcome, ns)

/-- Let the controller do what is due. -/
def work : Engine α → Engine α × List Notice
  | .scripted starts stops milliseconds => (.scripted starts stops milliseconds, [])
  | .builtin limits station =>
    let (station, ns) := station.settle around.answer ms
    (.builtin limits station, ns)

/-- Addresses are not bound by a controller that starts. -/
theorem startup_binder (binder : Binder) (access : ClusterAccess) (o : ControllerOptions)
    (engine : Engine α) :
    engine.startup { around with binder } ms access o = engine.startup around ms access o := by
  cases engine <;> rfl

/-- A controller of this library does not start without a connection to the cluster. -/
theorem startup_unconnected {access : ClusterAccess} {fault : ClientFault} {o : ControllerOptions}
    {limits : RateLimit → Limits α} {station : Station α}
    (h : access.connect around.environment = .error fault) :
    (builtin limits station).startup around ms access o =
      (builtin limits station, .error (.client fault), []) := by
  simp [startup, Station.launch, h]

/-- Without a controller there is nothing to do. -/
theorem work_new (limits : RateLimit → Limits α) (limiter : Limiter α) :
    ((builtin limits (Station.new limiter)).work around ms).2 = [] := rfl

theorem work_binder (binder : Binder) (engine : Engine α) :
    engine.work { around with binder } ms = engine.work around ms := by
  cases engine <;> rfl

end Engine

namespace Session

variable (o : ControllerOptions) (ms : Nat) (s : Session α)

theorem startController_eq :
    s.startController o ms =
      let (engine, started) := s.engine.startup s.surroundings ms s.access o
      ({ s with engine }, started) := by
  obtain ⟨around, access, engine, agent, connections, stopping, drain⟩ := s
  cases engine <;> rfl

theorem work_eq :
    s.work ms =
      let (engine, ns) := s.engine.work s.surroundings ms
      ({ s with engine }, ns) := by
  obtain ⟨around, access, engine, agent, connections, stopping, drain⟩ := s
  cases engine <;> rfl

/-- The record of a step. -/
def recorded (e : LifecycleEvent) : List AgentEffect :=
  (Journal.empty.record e).2.map .notice

section

variable {around : Surroundings} {access : ClusterAccess} {engine : Engine α} {c : Configuration}
  {ms : Nat}

/-- If the controller does not start, the agent ends with nothing in its journal. -/
theorem handle_run_failed {started : Engine α} {fault : StartFault} {ns : List Notice}
    (h : engine.startup around ms access c.controllerOptions = (started, .error fault, ns)) :
    (new around access engine c).handle ms .run =
      ({ new around access (started.work around ms).1 c with
          agent := { Agent.new c with phase := .ended (.error fault) } },
        .call (.startController c.controllerOptions) ::
          (ns ++ (started.work around ms).2).map .notice) := by
  have hstart : (new around access engine c).give ms .run =
      ({ new around access started c with
          agent := { Agent.new c with phase := .ended (.error fault) } },
        .call (.startController c.controllerOptions) :: ns.map .notice) := by
    simp [give, obeyAll, obey, startController_eq, new, Agent.new, Agent.step, h]
  rw [handle, hstart]
  simp [settle, work_eq, give, obeyAll, Agent.step, hearStopped, hearDrained, new]

/-- If the controller starts, the debug server does, and the agent waits. -/
theorem handle_run_started {started : Engine α} {ns : List Notice}
    (h : engine.startup around ms access c.controllerOptions = (started, .ok (), ns)) :
    let (server, serving) := DebugServer.start around.binder c.debugAddr
    (new around access engine c).handle ms .run =
      ({ new around access (started.work around ms).1 c with
          agent := { Agent.new c with
            journal := ⟨[.controllerStarted, .debugServerStarted server.address]⟩
            phase := .waiting server } },
        .call (.startController c.controllerOptions) :: ns.map .notice ++
          recorded .controllerStarted ++ serving.map .notice ++
          recorded (.debugServerStarted server.address) ++ [.notice (.logged .waiting)] ++
          (started.work around ms).2.map .notice) := by
  rcases hserver : DebugServer.start around.binder c.debugAddr with ⟨server, serving⟩
  have hstart : (new around access engine c).give ms .run =
      ({ new around access started c with
          agent := { Agent.new c with
            journal := ⟨[.controllerStarted, .debugServerStarted server.address]⟩
            phase := .waiting server } },
        .call (.startController c.controllerOptions) :: ns.map .notice ++
          recorded .controllerStarted ++ serving.map .notice ++
          recorded (.debugServerStarted server.address) ++ [.notice (.logged .waiting)]) := by
    simp [give, obeyAll, obey, startController_eq, new, Agent.new, Agent.step, h, Agent.bind,
      Agent.serve, Agent.record, recorded, Journal.record, Journal.empty, hserver]
  dsimp only
  rw [handle, hstart]
  -- Nobody has asked to shut down, so the agent only looks.
  simp [settle, work_eq, give, obeyAll, Agent.step, hearStopped, hearDrained, new, Agent.new,
    Slot.new, Slot.ready]

end

end Session

/-! ### Credentials -/

namespace Flags

variable (f : Flags)

theorem call_credentials : f.credentials.call = f.loaderCall := by
  rw [credentials, loaderCall]
  split <;> rfl

/-- What is said before credentials are loaded. -/
def announced : List AgentEffect := [.notice (.logged f.credentials.announcement)]

/-- What is said once they are. -/
def loaded (access : ClusterAccess) : List AgentEffect :=
  f.announced ++ [.notice (.logged
    (.clientConfigured access.clusterUrl.text f.clientGoQps f.clientGoBurst.toNat))]

end Flags

namespace Provision

variable (p : Provision α) (f : Flags) (ms : Nat)

/-- The handle that access is turned into. -/
def handle (access : ClusterAccess) : ClientHandle α where
  access := access
  source := f.credentials
  rate := ⟨f.clientGoQps, f.clientGoBurst⟩
  limiter := Limiter.new (p.limits ⟨f.clientGoQps, f.clientGoBurst⟩) (Clock.instantOf ms)

/-- How the controller starts that is made of this handle. -/
def startup (access : ClusterAccess) (c : Configuration) :
    Engine α × Except StartFault Unit × List Notice :=
  (p.engine (p.handle f ms access)).startup p.surroundings ms access c.controllerOptions

variable {p f} {c : Configuration}

omit [TokenArithmetic α] in
theorem build_failed {fault : CredentialFault} (hc : f.resolve = .ok c)
    (h : p.loader f.loaderCall = .error fault) :
    ClientBuild.build p.loader p.limits c (Clock.instantOf ms) =
      ⟨.error (.credentials f.credentials fault), [f.loaderCall],
        [.logged f.credentials.announcement]⟩ := by
  have hcredentials := Flags.credentials_eq_of_reflects (Flags.reflects_of_resolve hc)
  simp [ClientBuild.build, Loader.ask, hcredentials, Flags.call_credentials, h]

omit [TokenArithmetic α] in
theorem build_loaded {access : ClusterAccess} (hc : f.resolve = .ok c)
    (h : p.loader f.loaderCall = .ok access) :
    ClientBuild.build p.loader p.limits c (Clock.instantOf ms) =
      ⟨.ok (p.handle f ms access), [f.loaderCall],
        [.logged f.credentials.announcement, .logged
          (.clientConfigured access.clusterUrl.text f.clientGoQps f.clientGoBurst.toNat)]⟩ := by
  have hreflects := Flags.reflects_of_resolve hc
  have hcredentials := Flags.credentials_eq_of_reflects hreflects
  simp [ClientBuild.build, Loader.ask, hcredentials, hreflects.clientRate, Flags.call_credentials,
    h, handle]

end Provision

/-! ### The stages -/

namespace Program

variable {p : Provision α} {f : Flags} {ms : Nat} {c : Configuration} {access : ClusterAccess}

theorem start_unresolved {vs : List Violation} (h : f.resolve = .error vs) :
    start p f ms = ⟨.exited .failure, [],
      opening f ++ [.notice (.logged (.terminating (Violation.summary vs)))]⟩ := by
  rw [start, h]
  rfl

theorem start_unloaded {fault : CredentialFault} (hc : f.resolve = .ok c)
    (h : p.loader f.loaderCall = .error fault) :
    let fault : StartupFault := .config (.credentials f.credentials fault)
    start p f ms =
      ⟨.exited fault.exitCode, [f.loaderCall],
        opening f ++ p.warnings ++ f.announced ++ fault.lastWords⟩ := by
  rw [start, hc]
  dsimp only
  rw [Provision.build_failed ms hc h]
  simp only [abort_eq]
  rfl

/-- Whoever cannot listen to signals does not start the controller. -/
theorem start_deaf {cause : Cause} (hc : f.resolve = .ok c)
    (h : p.loader f.loaderCall = .ok access) (hlistener : p.listener = .error cause) :
    start p f ms =
      ⟨.exited .failure, [f.loaderCall], opening f ++ p.warnings ++ f.loaded access ++
        [.notice (.logged (.terminating (StartupFault.signals cause).message))]⟩ := by
  rw [start, hc]
  dsimp only
  rw [Provision.build_loaded ms hc h]
  dsimp only
  rw [hlistener]
  rfl

theorem start_unstarted {started : Engine α} {fault : StartFault} {ns : List Notice}
    (hc : f.resolve = .ok c) (h : p.loader f.loaderCall = .ok access)
    (hlistener : p.listener = .ok ())
    (hstart : p.startup f ms access c = (started, .error fault, ns)) :
    start p f ms =
      ⟨.exited (StartupFault.subsystem fault).exitCode, [f.loaderCall],
        opening f ++ p.warnings ++ f.loaded access ++
          .call (.startController c.controllerOptions) ::
          (ns ++ (started.work p.surroundings ms).2).map .notice ++
          (StartupFault.subsystem fault).lastWords⟩ := by
  rw [start, hc]
  dsimp only
  rw [Provision.build_loaded ms hc h]
  dsimp only
  rw [hlistener]
  dsimp only
  rw [show (p.handle f ms access).access = access from rfl, Session.handle_run_failed hstart]
  simp [conclude, Agent.result?, abort_eq, Flags.loaded, Flags.announced]

theorem start_started {started : Engine α} {ns : List Notice}
    (hc : f.resolve = .ok c) (h : p.loader f.loaderCall = .ok access)
    (hlistener : p.listener = .ok ())
    (hstart : p.startup f ms access c = (started, .ok (), ns)) :
    let (server, serving) := DebugServer.start p.surroundings.binder c.debugAddr
    start p f ms =
      ⟨.running
          { Session.new p.surroundings access (started.work p.surroundings ms).1 c with
            agent := { Agent.new c with
              journal := ⟨[.controllerStarted, .debugServerStarted server.address]⟩
              phase := .waiting server } },
        [f.loaderCall],
        opening f ++ p.warnings ++ f.loaded access ++
          .call (.startController c.controllerOptions) ::
          ns.map .notice ++ Session.recorded .controllerStarted ++ serving.map .notice ++
          Session.recorded (.debugServerStarted server.address) ++ [.notice (.logged .waiting)] ++
          (started.work p.surroundings ms).2.map .notice⟩ := by
  have hrun := Session.handle_run_started hstart
  rcases hserver : DebugServer.start p.surroundings.binder c.debugAddr with ⟨server, serving⟩
  rw [hserver] at hrun
  dsimp only at hrun ⊢
  rw [start, hc]
  dsimp only
  rw [Provision.build_loaded ms hc h]
  dsimp only
  rw [hlistener]
  dsimp only
  rw [show (p.handle f ms access).access = access from rfl, hrun]
  simp [conclude, Agent.result?, Flags.loaded, Flags.announced]

omit [TokenArithmetic α] in
/-- What is said of metrics depends on their recorder only. -/
theorem warnings_congr {other : Provision α} (h : other.recorder = p.recorder) :
    other.warnings = p.warnings := by
  rw [Provision.warnings, Provision.warnings, h]

/-- What the way that is not taken would have led to is nothing to the program. -/
theorem start_congr {loader : Loader} (h : loader f.loaderCall = p.loader f.loaderCall) :
    start { p with loader } f ms = start p f ms := by
  unfold start
  split
  · rfl
  · rename_i c hc
    have hcall : loader c.credentials.call = p.loader c.credentials.call := by
      rw [Flags.credentials_eq_of_reflects (Flags.reflects_of_resolve hc), Flags.call_credentials,
        h]
    dsimp only
    rw [ClientBuild.build_congr hcall]
    rfl

/-- **Startup fails fast.** If the flags do not resolve, nothing is looked for.  Otherwise
credentials are looked for once, in the place that the flags name; if they are not found, or if the
program cannot listen to signals, the controller is not started; if it does not start, the debug
server is not started and the journal stays empty; and if it starts, so does the debug server, and
the agent waits.  The first fault decides the exit code and the last entry, and what the later
stages would have done, or the other way to credentials, makes no difference. -/
theorem fails_fast (p : Provision α) (f : Flags) (ms : Nat) :
    (∀ vs, f.resolve = .error vs →
      start p f ms = ⟨.exited .failure, [],
        opening f ++ [.notice (.logged (.terminating (Violation.summary vs)))]⟩ ∧
      ∀ other : Provision α, start other f ms = start p f ms) ∧
    (∀ c cause, f.resolve = .ok c → p.loader f.loaderCall = .error cause →
      let fault : StartupFault := .config (.credentials f.credentials cause)
      start p f ms =
        ⟨.exited fault.exitCode, [f.loaderCall],
          opening f ++ p.warnings ++ f.announced ++ fault.lastWords⟩ ∧
      ∀ other : Provision α, other.recorder = p.recorder →
        other.loader f.loaderCall = p.loader f.loaderCall → start other f ms = start p f ms) ∧
    (∀ c access cause, f.resolve = .ok c → p.loader f.loaderCall = .ok access →
      p.listener = .error cause →
      start p f ms =
        ⟨.exited .failure, [f.loaderCall], opening f ++ p.warnings ++ f.loaded access ++
          [.notice (.logged (.terminating (StartupFault.signals cause).message))]⟩ ∧
      ∀ other : Provision α, other.recorder = p.recorder →
        other.loader f.loaderCall = p.loader f.loaderCall → other.listener = p.listener →
        start other f ms = start p f ms) ∧
    (∀ c access started cause ns, f.resolve = .ok c → p.loader f.loaderCall = .ok access →
      p.listener = .ok () → p.startup f ms access c = (started, .error cause, ns) →
      let fault : StartupFault := .subsystem cause
      let session := Session.new p.surroundings access (p.engine (p.handle f ms access)) c
      let agent := (session.handle ms .run).1.agent
      start p f ms =
        ⟨.exited fault.exitCode, [f.loaderCall],
          opening f ++ p.warnings ++ f.loaded access ++
            .call (.startController c.controllerOptions) ::
            (ns ++ (started.work p.surroundings ms).2).map .notice ++ fault.lastWords⟩ ∧
      agent.result? = some (.error cause) ∧ agent.journal.events = [] ∧
      ∀ binder, start { p with surroundings := { p.surroundings with binder } } f ms =
        start p f ms) ∧
    (∀ c access started ns, f.resolve = .ok c → p.loader f.loaderCall = .ok access →
      p.listener = .ok () → p.startup f ms access c = (started, .ok (), ns) →
      let (server, serving) := DebugServer.start p.surroundings.binder c.debugAddr
      start p f ms =
        ⟨.running
            { Session.new p.surroundings access (started.work p.surroundings ms).1 c with
              agent := { Agent.new c with
                journal := ⟨[.controllerStarted, .debugServerStarted server.address]⟩
                phase := .waiting server } },
          [f.loaderCall],
          opening f ++ p.warnings ++ f.loaded access ++
            .call (.startController c.controllerOptions) ::
            ns.map .notice ++ Session.recorded .controllerStarted ++ serving.map .notice ++
            Session.recorded (.debugServerStarted server.address) ++
            [.notice (.logged .waiting)] ++ (started.work p.surroundings ms).2.map .notice⟩) ∧
    (∀ loader : Loader, loader f.loaderCall = p.loader f.loaderCall →
      start { p with loader } f ms = start p f ms) ∧
    (∀ fault : StartupFault, fault.isFatal = false → fault.exitCode = .failure ∧
      fault.lastWords = [.notice (.logged (.terminating fault.message))]) := by
  refine ⟨fun vs hvs => ⟨start_unresolved hvs, fun other => ?_⟩,
    fun c cause hc hload => ⟨start_unloaded hc hload, fun other hrecorder hother => ?_⟩,
    fun c access cause hc hload hlistener =>
      ⟨start_deaf hc hload hlistener, fun other hrecorder hother hsame => ?_⟩,
    fun c access started cause ns hc hload hlistener hstart =>
      ⟨start_unstarted hc hload hlistener hstart, ?_, ?_, fun binder => ?_⟩,
    fun c access started ns hc hload hlistener hstart => start_started hc hload hlistener hstart,
    fun loader hloader => start_congr hloader, fun fault hfault => ?_⟩
  · rw [start_unresolved hvs, start_unresolved hvs]
  · rw [start_unloaded hc (hother.trans hload), start_unloaded hc hload, warnings_congr hrecorder]
  · rw [start_deaf hc (hother.trans hload) (hsame.trans hlistener), start_deaf hc hload hlistener,
      warnings_congr hrecorder]
  · rw [Session.handle_run_failed hstart]
    rfl
  · rw [Session.handle_run_failed hstart]
    rfl
  · let other : Provision α := { p with surroundings := { p.surroundings with binder } }
    have hother : other.startup f ms access c = (started, .error cause, ns) :=
      (Engine.startup_binder _ _ binder _ _ _).trans hstart
    rw [start_unstarted (p := other) hc hload hlistener hother,
      start_unstarted hc hload hlistener hstart, Engine.work_binder]
    rfl
  · simp [StartupFault.exitCode, StartupFault.lastWords, hfault]

/-- A token with a line end, which cannot stand in a header. -/
def brokenToken : ClusterAccess :=
  { ClusterAccess.ofUrl ⟨some "https", some "h.example:6443", "/", none⟩ with
    auth := { AuthInfo.anonymous with token := some "bad\ntoken" } }

/-- The controllers of this library, with access by that token. -/
def withBrokenToken : Provision Float where
  surroundings := ⟨⟨fun _ => none, fun _ => .error .missing⟩, fun _ => .failure "",
    fun _ _ => .error (Cause.of "")⟩
  loader _ := .ok brokenToken
  limits := RateLimit.limits
  engine handle := .builtin RateLimit.limits (Station.new handle.limiter)
  recorder := .ok ()
  listener := .ok ()

/-- The controller does not start, but the program does not say so, and its exit code is not that
of a failure. -/
theorem crash_of_broken_token :
    (∃ c, Flags.default.resolve = .ok c ∧
      (withBrokenToken.startup Flags.default 0 brokenToken c).2.1 = .error (.client .tokenHeader)) ∧
    (start withBrokenToken Flags.default 0).program.exitCode? = some .crash ∧
    ExitCode.crash.number ≠ 1 ∧
    ∀ error, .notice (.logged (.terminating error)) ∉
      (start withBrokenToken Flags.default 0).effects := by
  obtain ⟨c, hc⟩ :=
    Flags.exists_resolve (List.isEmpty_iff.mp (by decide +kernel) : Flags.default.violations = [])
  have hconnect : brokenToken.connect withBrokenToken.surroundings.environment =
      .error .tokenHeader := by decide +kernel
  have hstart : withBrokenToken.startup Flags.default 0 brokenToken c =
      (.builtin RateLimit.limits
        (Station.new (withBrokenToken.handle Flags.default 0 brokenToken).limiter),
        .error (.client .tokenHeader), []) :=
    Engine.startup_unconnected _ _ hconnect
  refine ⟨⟨c, hc, by rw [hstart]⟩, ?_, by decide, fun error => ?_⟩
  · rw [start_unstarted hc rfl rfl hstart]
    rfl
  · have hambient : Flags.default.credentials = .ambient := by decide
    rw [start_unstarted hc rfl rfl hstart, Engine.work_new, opening, hc]
    simp [Provision.warnings, withBrokenToken, Flags.loaded, Flags.announced, hambient,
      CredentialsSource.announcement, StartupFault.lastWords, StartupFault.isFatal,
      ClientFault.isFatal]

end Program

end ClusterAgent
