/-
Kubeconfig files: clusters, users, and contexts that join them.

* `Kubeconfig.merge` — of two files the first wins, and what only the second one
  names is added;
* `Kubeconfig.relocate` — relative paths are read from the directory of the file.

Design notes: of what a file may hold, only what the agent goes by is kept.
-/
import ClusterAgent.Client.Access
import ClusterAgent.Environment

namespace ClusterAgent

/-- An entry under its name. -/
structure Named (α : Type) where
  name : String
  value : Option α

namespace Kubeconfig

/-- A cluster as described in a file. -/
structure Cluster where
  server : Option String
  skipVerify : Option Bool
  authority : Option String
  authorityData : Option String
  proxyUrl : Option String
  disableCompression : Option Bool
  tlsServerName : Option String

/-- A cluster and who uses it. -/
structure Context where
  cluster : String
  user : Option String
  space : Option String

end Kubeconfig

/-- The content of a file. -/
structure Kubeconfig where
  kind : Option String
  apiVersion : Option String
  currentContext : Option String
  clusters : List (Named Kubeconfig.Cluster)
  users : List (Named AuthInfo)
  contexts : List (Named Kubeconfig.Context)

/-- The first entry of a name, if it has a value. -/
def Named.find? {α : Type} (entries : List (Named α)) (name : String) : Option α :=
  (entries.find? (·.name == name)).bind (·.value)

/-- Change the value of an entry. -/
def Named.map {α : Type} (f : α → α) (entry : Named α) : Named α :=
  { entry with value := entry.value.map f }

namespace Kubeconfig

/-- A file without content. -/
def empty : Kubeconfig := ⟨none, none, none, [], [], []⟩

/-- Why two files cannot be merged. -/
inductive MergeFault where
  | kind
  | apiVersion
deriving DecidableEq

/-- The text of a fault. -/
def MergeFault.message : MergeFault → String
  | .kind => "kubeconfigs with mismatching kind cannot be merged"
  | .apiVersion => "kubeconfigs with mismatching api version cannot be merged"

/-- Whether two values differ, both being there. -/
def differ (a b : Option String) : Bool := a.isSome && b.isSome && a != b

/-- Add the entries whose names are new. -/
def addNew {α : Type} (base added : List (Named α)) : List (Named α) :=
  base ++ added.filter fun entry => !base.any (·.name == entry.name)

/-- Merge a file with one that follows it. -/
def merge (a b : Kubeconfig) : Except MergeFault Kubeconfig :=
  if differ a.kind b.kind then .error .kind
  else if differ a.apiVersion b.apiVersion then .error .apiVersion
  else
    .ok
      { kind := a.kind.or b.kind
        apiVersion := a.apiVersion.or b.apiVersion
        currentContext := a.currentContext.or b.currentContext
        clusters := addNew a.clusters b.clusters
        users := addNew a.users b.users
        contexts := addNew a.contexts b.contexts }

/-- Merge files in their order; none at all are one without content. -/
def mergeAll : List Kubeconfig → Except MergeFault Kubeconfig
  | [] => .ok empty
  | first :: rest => rest.foldlM merge first

/-- Read the paths in a file from the directory it lies in. -/
def relocate (directory : String) (k : Kubeconfig) : Kubeconfig :=
  let place (path : Option String) : Option String := path.map (Path.join directory)
  let cluster (c : Cluster) : Cluster := { c with authority := place c.authority }
  let user (u : AuthInfo) : AuthInfo :=
    { u with
      tokenFile := place u.tokenFile
      clientCertificate := place u.clientCertificate
      clientKey := place u.clientKey }
  { k with clusters := k.clusters.map (·.map cluster), users := k.users.map (·.map user) }

end Kubeconfig

end ClusterAgent
