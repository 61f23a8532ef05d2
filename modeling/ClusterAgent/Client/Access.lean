/-
How a cluster is reached: where it is, whom to trust and who asks.

`ClusterAccess` is what credentials come down to, from whichever source.
-/
import ClusterAgent.Net.Uri

namespace ClusterAgent

/-- A provider of tokens that is built in, with its settings. -/
structure AuthProvider where
  name : String
  settings : List (String × String)
deriving DecidableEq

/-- A command that hands out credentials. -/
structure ExecPlugin where
  command : Option String
  /-- Whether it is to be told about the cluster. -/
  provideClusterInfo : Bool
deriving DecidableEq

/-- Who asks. -/
structure AuthInfo where
  username : Option String
  password : Option String
  token : Option String
  tokenFile : Option String
  clientCertificate : Option String
  clientCertificateData : Option String
  clientKey : Option String
  clientKeyData : Option String
  impersonate : Option String
  impersonateGroups : Option (List String)
  provider : Option AuthProvider
  exec : Option ExecPlugin
deriving DecidableEq

/-- Nobody in particular. -/
def AuthInfo.anonymous : AuthInfo :=
  ⟨none, none, none, none, none, none, none, none, none, none, none, none⟩

/-- How a cluster is reached. -/
structure ClusterAccess where
  clusterUrl : Uri
  defaultNamespace : String
  /-- The certificates to trust; none are the usual ones. -/
  rootCerts : Option (List (List UInt8))
  acceptInvalidCerts : Bool
  disableCompression : Bool
  proxyUrl : Option Uri
  tlsServerName : Option String
  auth : AuthInfo
deriving DecidableEq

/-- Access by nothing but a URL. -/
def ClusterAccess.ofUrl (url : Uri) : ClusterAccess :=
  ⟨url, "default", none, false, true, none, none, AuthInfo.anonymous⟩

end ClusterAgent
