/-
Access to a cluster from a kubeconfig file.

* `Kubeconfig.read` — the content of a file, its documents merged;
* `Kubeconfig.access` — the cluster and the user of the current context;
* `Kubeconfig.load` — both;
* `KubeconfigFault.message` — the text of everything that can go wrong on the way.

Design notes: certificates given in the file go before those in a file of their
own.  A proxy in the file goes before those in the environment.
-/
import ClusterAgent.Encoding.Pem
import ClusterAgent.Encoding.Unicode
import ClusterAgent.Kubeconfig.Reader
import ClusterAgent.Text.Quoted

namespace ClusterAgent

/-- Why data given in one of two ways cannot be read. -/
inductive DataFault where
  | base64 (fault : Base64.Fault)
  | file (path : String) (fault : FileFault)
deriving DecidableEq

/-- The text of a fault. -/
def DataFault.message : DataFault → String
  | .base64 fault => "failed to decode base64 data: " ++ fault.message
  | .file path fault =>
    "failed to read file '" ++ Text.quote path ++ "': " ++ fault.message

/-- Why a file gives no access. -/
inductive KubeconfigFault where
  | unreadable (path : String) (fault : FileFault)
  | undecodable (path : String) (fault : Unicode.Fault)
  | text (fault : Kubeconfig.TextFault)
  | merge (fault : Kubeconfig.MergeFault)
  | currentContextNotSet
  | context (name : String)
  | clusterOfContext (name : String)
  | clusterUrlMissing
  | clusterUrl (fault : Uri.Fault)
  | authority (fault : DataFault)
  | certificates (fault : Pem.Fault)
  | proxyUrl (fault : Uri.Fault)
deriving DecidableEq

namespace KubeconfigFault

/-- The text of what lies beneath a fault. -/
def source? : KubeconfigFault → Option String
  | unreadable _ fault => some fault.message
  | undecodable _ fault => some fault.message
  | clusterUrl fault | proxyUrl fault => some fault.message
  | authority fault => some fault.message
  | certificates fault => some fault.message
  | _ => none

/-- The text of a fault. -/
def message : KubeconfigFault → String
  | unreadable path fault =>
    "failed to read kubeconfig from '" ++ Text.quote path ++ "': " ++ fault.message
  | undecodable path fault =>
    "failed to read kubeconfig from '" ++ Text.quote path ++ "': " ++ fault.message
  | text .malformed => "failed to parse kubeconfig YAML"
  | text .shape => "the structure of the parsed kubeconfig is invalid"
  | merge fault => fault.message
  | currentContextNotSet => "failed to determine current context"
  | context name => "failed to load current context: " ++ name
  | clusterOfContext name => "failed to load the cluster of context: " ++ name
  | clusterUrlMissing => "cluster url is missing on selected cluster"
  | clusterUrl fault => "failed to parse cluster url: " ++ fault.message
  | authority _ => "failed to load certificate authority"
  | certificates fault => "failed to parse PEM-encoded certificates: " ++ fault.message
  | proxyUrl fault => "failed to parse proxy url: " ++ fault.message

/-- Whether a fault leaves no way to go on. -/
def isFatal : KubeconfigFault → Bool
  | undecodable _ .halfUnit => true
  | _ => false

end KubeconfigFault

/-- Data, if there is any, ends in a line end. -/
def endLine (bytes : List UInt8) : List UInt8 :=
  if bytes.getLast?.any (· != 10) then bytes ++ [10] else bytes

/-- Data that is given in base64 or else lies in a file; none if neither is named. -/
def Environment.data (env : Environment) (encoded path : Option String) :
    Except DataFault (Option (List UInt8)) :=
  match encoded, path with
  | some text, _ =>
    match Base64.decode text.toUTF8.toList with
    | .ok bytes => .ok (some (endLine bytes))
    | .error fault => .error (.base64 fault)
  | none, some path =>
    match env.contentOf path with
    | .ok bytes => .ok (some (endLine bytes))
    | .error fault => .error (.file path fault)
  | none, none => .ok none

namespace Kubeconfig

/-- The content of a file. -/
def read (env : Environment) (path : String) : Except KubeconfigFault Kubeconfig := do
  let bytes ← (env.contentOf path).mapError (.unreadable path)
  let text ← (Unicode.decode bytes).mapError (.undecodable path)
  let documents ← (parseAll text).mapError .text
  let placed := match Path.parent? path with
    | some directory => documents.map (relocate directory)
    | none => documents
  (mergeAll placed).mapError .merge

/-- The cluster and the user of the current context. -/
def current (k : Kubeconfig) : Except KubeconfigFault (Context × Cluster × AuthInfo) := do
  let some name := k.currentContext | throw .currentContextNotSet
  let some context := Named.find? k.contexts name | throw (.context name)
  let some cluster := Named.find? k.clusters context.cluster
    | throw (.clusterOfContext context.cluster)
  let user := context.user.bind (Named.find? k.users)
  return (context, cluster, user.getD AuthInfo.anonymous)

/-- The files that the cluster and the user of the current context name. -/
def paths (k : Kubeconfig) : List String :=
  match k.current with
  | .ok (_, cluster, user) =>
    [cluster.authority, user.clientCertificate, user.clientKey, user.tokenFile].filterMap id
  | .error _ => []

/-- The variables that may name a proxy, in the order in which they are asked. -/
def proxyVariables : List String := ["HTTP_PROXY", "http_proxy", "HTTPS_PROXY", "https_proxy"]

/-- The proxy to use. One that is empty counts as none. -/
def proxy? (env : Environment) (cluster : Cluster) : Option String :=
  (cluster.proxyUrl :: proxyVariables.map env.valueOf).findSome? fun given =>
    given.filter (· != "")

/-- Access to the cluster of the current context. -/
def access (env : Environment) (k : Kubeconfig) : Except KubeconfigFault ClusterAccess := do
  let (context, cluster, user) ← k.current
  let authority := (env.data cluster.authorityData cluster.authority).mapError .authority
  if user.exec.any (·.provideClusterInfo) then
    let _ ← authority
  let some server := cluster.server | throw .clusterUrlMissing
  let clusterUrl ← (Uri.parse server).mapError .clusterUrl
  let rootCerts ← match ← authority with
    | some bundle => (Pem.certificates bundle).map some |>.mapError .certificates
    | none => pure none
  let proxyUrl ← match proxy? env cluster with
    | some url => (Uri.parse url).map some |>.mapError .proxyUrl
    | none => pure none
  return {
    clusterUrl
    defaultNamespace := context.space.getD "default"
    rootCerts
    acceptInvalidCerts := cluster.skipVerify.getD false
    disableCompression := cluster.disableCompression.getD false
    proxyUrl
    tlsServerName := cluster.tlsServerName
    auth := user }

/-- Access from a file. -/
def load (env : Environment) (path : String) : Except KubeconfigFault ClusterAccess := do
  access env (← read env path)

end Kubeconfig

end ClusterAgent
