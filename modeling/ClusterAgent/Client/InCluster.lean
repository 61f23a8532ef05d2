/-
Access to the cluster that the agent itself runs in.

Variables tell host and port of the control plane; a service account lies in
mounted files.

* `InCluster.url` — the control plane's URL, with a port unless it is the usual
  one;
* `InCluster.access` — access by the service account.
-/
import ClusterAgent.Client.Access
import ClusterAgent.Decimal.Numeral
import ClusterAgent.Encoding.Pem
import ClusterAgent.Environment
import ClusterAgent.Net.Address

namespace ClusterAgent

/-- Why there is no access from inside. -/
inductive InClusterFault where
  | variableMissing
  | port (fault : Decimal.NumeralFault)
  | url (fault : Uri.Fault)
  | space (fault : FileFault)
  | certificateFile (fault : FileFault)
  | certificates (fault : Pem.Fault)
deriving DecidableEq

/-- The text of a fault. -/
def InClusterFault.message : InClusterFault → String
  | .variableMissing =>
    "failed to read an incluster environment variable: environment variable not found"
  | .port fault => "failed to parse cluster port: " ++ fault.message
  | .url fault => "failed to parse cluster url: " ++ fault.message
  | .space fault => "failed to read the default namespace: " ++ fault.message
  | .certificateFile fault => "failed to read a certificate bundle: " ++ fault.message
  | .certificates fault => "failed to parse PEM-encoded certificates: " ++ fault.message

/-- The text of what lies beneath a fault. -/
def InClusterFault.source : InClusterFault → String
  | .variableMissing => "environment variable not found"
  | .port fault => fault.message
  | .url fault => fault.message
  | .space fault => fault.message
  | .certificateFile fault => fault.message
  | .certificates fault => fault.message

namespace InCluster

/-- The port that need not be written. -/
def usualPort : Nat := 443

/-- Where the files of the service account are. -/
def mount : String := "/var/run/secrets/kubernetes.io/serviceaccount"

/-- The files that are read. -/
def paths : List String := [mount ++ "/namespace", mount ++ "/ca.crt", mount ++ "/token"]

/-- The variables that are read. -/
def variableNames : List String := ["KUBERNETES_SERVICE_HOST", "KUBERNETES_SERVICE_PORT"]

/-- A host with a port, as it is written in a URL. -/
def authority (host : String) (port : Nat) : String :=
  let bracketed := match IpAddress.parse? host with
    | some (.v6 groups) => "[" ++ (IpAddress.v6 groups).text ++ "]"
    | some ip => ip.text
    | none => host
  if port = usualPort then bracketed else bracketed ++ ":" ++ toString port

/-- The control plane's URL. -/
def url (env : Environment) : Except InClusterFault Uri := do
  let some host := env.valueOf "KUBERNETES_SERVICE_HOST" | throw .variableMissing
  let some port := env.valueOf "KUBERNETES_SERVICE_PORT" | throw .variableMissing
  let port ← (Decimal.readNatural 65535 port.toList).mapError .port
  (Uri.parse ("https://" ++ authority host port)).mapError .url

/-- Access by the service account. -/
def access (env : Environment) : Except InClusterFault ClusterAccess := do
  let clusterUrl ← url env
  let written ← (env.contentOf (mount ++ "/namespace")).mapError .space
  let some space := String.fromUTF8? (ByteArray.mk written.toArray)
    | throw (.space (.other "stream did not contain valid UTF-8"))
  let bundle ← (env.contentOf (mount ++ "/ca.crt")).mapError .certificateFile
  let certificates ← (Pem.certificates bundle).mapError .certificates
  return {
    ClusterAccess.ofUrl clusterUrl with
    defaultNamespace := space
    rootCerts := some certificates
    auth := { AuthInfo.anonymous with tokenFile := some (mount ++ "/token") } }

end InCluster

end ClusterAgent
