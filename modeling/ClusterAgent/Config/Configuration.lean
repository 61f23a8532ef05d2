/-
The configuration of the whole agent.

`Flags.resolve` checks the flags against each other and turns them into one
`Configuration`, or answers with every `Violation` there is.

* `Flags.resolve_eq_error_iff` — it fails exactly when there is a violation, and
  then with all of them;
* `Flags.parse?_debugAddr_of_violations_eq_nil` — without a violation the
  address to listen on can be read, so the second reading cannot fail;
* `Flags.exists_resolve`, `Flags.violations_eq_nil_of_resolve` — it succeeds
  exactly when there is none;
* `Configuration.controllerOptions` — what of it the controller is started with.

Design notes: violations come in one fixed order, rates first and the address
last, each with the flag and the value at fault.
-/
import ClusterAgent.Config.BindAddress
import ClusterAgent.Config.Flags
import ClusterAgent.Decimal.Layout
import ClusterAgent.Rate.Bucket
import ClusterAgent.Text.Quoted

namespace ClusterAgent

/-- Where the credentials for the control plane come from. -/
inductive CredentialsSource where
  /-- A kubeconfig file, of which the current context is used. -/
  | explicit (path : String)
  /-- The environment the agent runs in. -/
  | ambient
deriving DecidableEq

/-- How the source is named in messages. -/
def CredentialsSource.text : CredentialsSource → String
  | .explicit path => "kubeconfig " ++ path
  | .ambient => "in-cluster config"

/-- A condition on the startup parameters that does not hold. -/
inductive Violation where
  | rate (flag : Flag) (value : Float)
  | zeroBurst (flag : Flag)
  | zeroWorkers
  | zeroSpan (flag : Flag)
  | bindAddress (value : String)

/-- The text of a violation. -/
def Violation.message : Violation → String
  | .rate flag value =>
    flag.long ++ " must be a finite number greater than zero, got " ++ Decimal.plain.write value
  | .zeroBurst flag => flag.long ++ " must be at least 1"
  | .zeroWorkers => "--workers must be at least 1"
  | .zeroSpan flag => flag.long ++ " must be greater than zero"
  | .bindAddress value => "--debug-addr " ++ Text.quote value ++ " is not a valid bind address"

/-- All violations in one line. -/
def Violation.summary (vs : List Violation) : String :=
  "invalid startup parameters: " ++ ", ".intercalate (vs.map message)

/-- The validated configuration. -/
structure Configuration where
  credentials : CredentialsSource
  discoveryInterval : Span
  cacheFlushInterval : Span
  debugAddr : BindAddress
  workers : UInt64
  clientRate : RateLimit
  eventRate : RateLimit
  shutdownGrace : Span

/-- What the controller is started with, besides the client. -/
structure ControllerOptions where
  discoveryInterval : Span
  cacheFlushInterval : Span
  workers : Nat
  events : RateLimit

/-- The part of the configuration that the controller is started with. -/
def Configuration.controllerOptions (c : Configuration) : ControllerOptions :=
  ⟨c.discoveryInterval, c.cacheFlushInterval, c.workers.toNat, c.eventRate⟩

namespace Flags

/-- A rate must be finite and above zero. -/
def rateOk (x : Float) : Bool := Decimal.isFinite x && 0 < x

/-- Every condition that does not hold. -/
def violations (f : Flags) : List Violation :=
  let require (holds : Bool) (v : Violation) : List Violation := if holds then [] else [v]
  require (rateOk f.clientGoQps) (.rate .clientGoQps f.clientGoQps) ++
    require (rateOk f.eventsQps) (.rate .eventsQps f.eventsQps) ++
    require (f.clientGoBurst != 0) (.zeroBurst .clientGoBurst) ++
    require (f.eventsBurst != 0) (.zeroBurst .eventsBurst) ++
    require (f.workers != 0) .zeroWorkers ++
    require (!f.discoveryInterval.isZero) (.zeroSpan .discoveryInterval) ++
    require (!f.cacheFlushInterval.isZero) (.zeroSpan .cacheFlushInterval) ++
    require (!f.shutdownGrace.isZero) (.zeroSpan .shutdownGrace) ++
    require (BindAddress.parse? f.debugAddr).isSome (.bindAddress f.debugAddr)

/-- The source that a kubeconfig path stands for: none given is the ambient one. -/
def credentials (f : Flags) : CredentialsSource :=
  if f.clientConfigPath = "" then .ambient else .explicit f.clientConfigPath

/-- Check the flags and build the configuration. -/
def resolve (f : Flags) : Except (List Violation) Configuration :=
  match f.violations with
  | v :: vs => .error (v :: vs)
  | [] =>
    match BindAddress.parse? f.debugAddr with
    | none => .error [.bindAddress f.debugAddr]
    | some debugAddr =>
      .ok
        { credentials := f.credentials
          discoveryInterval := f.discoveryInterval
          cacheFlushInterval := f.cacheFlushInterval
          debugAddr
          workers := f.workers
          clientRate := ⟨f.clientGoQps, f.clientGoBurst⟩
          eventRate := ⟨f.eventsQps, f.eventsBurst⟩
          shutdownGrace := f.shutdownGrace }

theorem parse?_debugAddr_of_violations_eq_nil {f : Flags} (h : f.violations = []) :
    (BindAddress.parse? f.debugAddr).isSome = true := by
  simp only [violations, List.append_eq_nil_iff] at h
  have last := h.2
  split at last
  · assumption
  · simp at last

theorem resolve_eq_error_iff (f : Flags) (vs : List Violation) :
    f.resolve = .error vs ↔ vs ≠ [] ∧ f.violations = vs := by
  unfold resolve
  split
  · rename_i v rest h
    constructor
    · intro e
      cases e
      exact ⟨by simp, h⟩
    · rintro ⟨-, e⟩
      rw [← e, h]
  · rename_i h
    have some := parse?_debugAddr_of_violations_eq_nil h
    split
    · rename_i none
      simp [none] at some
    · constructor
      · intro e
        cases e
      · rintro ⟨ne, e⟩
        exact absurd (e.symm.trans h) ne

theorem exists_resolve {f : Flags} (h : f.violations = []) : ∃ c, f.resolve = .ok c := by
  cases hresolve : f.resolve with
  | error vs =>
    obtain ⟨hne, rfl⟩ := (f.resolve_eq_error_iff vs).mp hresolve
    exact absurd h hne
  | ok c => exact ⟨c, rfl⟩

theorem violations_eq_nil_of_resolve {f : Flags} {c : Configuration} (h : f.resolve = .ok c) :
    f.violations = [] := by
  by_cases hnone : f.violations = []
  · exact hnone
  · rw [(f.resolve_eq_error_iff f.violations).mpr ⟨hnone, rfl⟩] at h
    cases h

end Flags

end ClusterAgent
