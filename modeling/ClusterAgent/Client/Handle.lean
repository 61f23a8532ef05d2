/-
Building the client.

The credentials that the configuration names are loaded by the one way that
belongs to them; the other way is never tried.  What comes out is a handle:
access to the cluster and a limiter that all clients made from it share.

* `build` — load credentials and make a handle;
* `build_calls` — exactly one call, the one that the source stands for;
* `build_congr` — what the loader would answer to any other call is nothing to
  it.
-/
import ClusterAgent.Agent.Fault
import ClusterAgent.Client.Connection
import ClusterAgent.Client.Loader
import ClusterAgent.Rate.Limiter

namespace ClusterAgent

/-- Access to the cluster at a limited rate. -/
structure ClientHandle (α : Type) where
  access : ClusterAccess
  source : CredentialsSource
  rate : RateLimit
  limiter : Limiter α

/-- The call that a source of credentials stands for. -/
def CredentialsSource.call : CredentialsSource → LoaderCall
  | .explicit path => .kubeconfig path
  | .ambient => .inCluster

/-- The log entry of a source of credentials. -/
def CredentialsSource.announcement : CredentialsSource → LogEvent
  | .explicit path => .usingKubeconfig path
  | .ambient => .usingAmbient

/-- How the building of a client went. -/
structure ClientBuild (α : Type) where
  outcome : Except ConfigFault (ClientHandle α)
  calls : List LoaderCall
  notices : List Notice

namespace ClientBuild

variable {α : Type}

/-- Load credentials and make a handle with a full bucket. -/
def build (loader : Loader) (limits : RateLimit → Limits α) (c : Configuration) (now : Instant) :
    ClientBuild α :=
  let announced : List Notice := [.logged c.credentials.announcement]
  let (answer, calls) := Loader.ask loader c.credentials.call
  match answer with
  | .error fault => ⟨.error (.credentials c.credentials fault), calls, announced⟩
  | .ok access =>
    let configured : LogEvent :=
      .clientConfigured access.clusterUrl.text c.clientRate.qps c.clientRate.burst.toNat
    ⟨.ok ⟨access, c.credentials, c.clientRate, Limiter.new (limits c.clientRate) now⟩, calls,
      announced ++ [.logged configured]⟩

theorem build_calls (loader : Loader) (limits : RateLimit → Limits α) (c : Configuration)
    (now : Instant) : (build loader limits c now).calls = [c.credentials.call] := by
  unfold build Loader.ask
  dsimp only
  split <;> rfl

theorem build_congr {loader other : Loader} {limits : RateLimit → Limits α} {c : Configuration}
    {now : Instant} (h : loader c.credentials.call = other c.credentials.call) :
    build loader limits c now = build other limits c now := by
  simp [build, Loader.ask, h]

end ClientBuild

end ClusterAgent
