/-
Where access to the cluster comes from.

* `Loader` — answers each of the two ways to ask for access;
* `Loader.ask` — ask, and keep what was asked;
* `Environment.loader` — the loader that looks at files and variables.
-/
import ClusterAgent.Client.InCluster
import ClusterAgent.Kubeconfig.Load

namespace ClusterAgent

/-- One way to ask for access. -/
inductive LoaderCall where
  | kubeconfig (path : String)
  | inCluster
deriving DecidableEq

/-- Why there is no access. -/
inductive CredentialFault where
  | kubeconfig (fault : KubeconfigFault)
  | inCluster (fault : InClusterFault)
  | other (cause : Cause)
deriving DecidableEq

/-- A fault as a cause of others. -/
def CredentialFault.cause : CredentialFault → Cause
  | .kubeconfig fault => ⟨fault.message, fault.source?.toList⟩
  | .inCluster fault => ⟨fault.message, [fault.source]⟩
  | .other cause => cause

/-- Answers each way to ask for access. -/
abbrev Loader := LoaderCall → Except CredentialFault ClusterAccess

/-- Ask for access, and keep what was asked. -/
def Loader.ask (loader : Loader) (call : LoaderCall) :
    Except CredentialFault ClusterAccess × List LoaderCall := (loader call, [call])

/-- The loader that looks at files and variables. -/
def Environment.loader (env : Environment) : Loader
  | .kubeconfig path => (Kubeconfig.load env path).mapError .kubeconfig
  | .inCluster => (InCluster.access env).mapError .inCluster

end ClusterAgent
