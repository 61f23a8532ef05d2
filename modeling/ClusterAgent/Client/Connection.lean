/-
Connections from access.

`connect` checks, in this order, the proxy, who asks, the certificates and the
headers that each request will bear.  It sends nothing.

* `ClusterAccess.connect` — the connection, or the first thing wrong with it;
* `AuthInfo.authentication` — how requests show who asks.

Design notes: a certificate and key of the client's own are used only if both
can be read.
-/
import ClusterAgent.Client.Fault
import ClusterAgent.Encoding.Der
import ClusterAgent.Kubeconfig.Load
import ClusterAgent.Net.Address
import ClusterAgent.Net.HostName

namespace ClusterAgent

/-- How requests show who asks. -/
inductive Authentication where
  | anonymous
  | basic (username password : String)
  | bearer (token : String)
  /-- The token is in a file, which is read again from time to time. -/
  | tokenFile (path : String)
  /-- A token that a provider renews. -/
  | renewed (token : String)
deriving DecidableEq

/-- What requests are sent with. -/
structure Connection where
  clusterUrl : Uri
  authentication : Authentication
  /-- The user and the groups to act as. -/
  impersonate : Option String
  impersonateGroups : List String
deriving DecidableEq

/-- Whether a text can stand in a header. -/
def isHeaderValue (s : String) : Bool :=
  s.toList.all fun c => c = '\t' || (32 ≤ c.toNat && c.toNat ≠ 127)

/-- No proxy can be used. -/
def proxyFault (url : Uri) : ClientFault :=
  match url.scheme with
  | some "http" => .proxyDisabled url.text "kube/http-proxy"
  | some "socks5" => .proxyDisabled url.text "kube/socks5"
  | _ => .proxyUnsupported url.text

/-- Who asks: a provider goes before a password, that before a token, and that
before a file with one. -/
def AuthInfo.authentication (env : Environment) (a : AuthInfo) :
    Except ClientFault Authentication :=
  match a.provider with
  | some provider =>
    match provider.name, provider.settings.lookup "id-token" with
    | "oidc", some token => .ok (.renewed token)
    | _, _ => .error .auth
  | none =>
    match a.username, a.password, a.token, a.tokenFile with
    | some user, some password, _, _ => .ok (.basic user password)
    | _, _, some token, _ =>
      if isHeaderValue token then .ok (.bearer token) else .error .tokenHeader
    | _, _, none, some path =>
      match env.contentOf path with
      | .ok bytes =>
        if (String.fromUTF8? (ByteArray.mk bytes.toArray)).isSome then .ok (.tokenFile path)
        else .error .auth
      | .error _ => .error .auth
    | _, _, none, none => if a.exec.isSome then .error .auth else .ok .anonymous

/-- Whether sections hold a certificate chain and a key. -/
def isIdentity (blocks : List Pem.Block) : Bool :=
  let certificates := blocks.filter (·.tag == "CERTIFICATE")
  let keys := blocks.filter fun b =>
    b.tag == "PRIVATE KEY" || b.tag == "RSA PRIVATE KEY" || b.tag == "EC PRIVATE KEY"
  !certificates.isEmpty && !keys.isEmpty && certificates.all (Der.isCertificate ·.contents) &&
    keys.all (Der.isKey ·.contents)

/-- Whether the client's own certificate and key, if they can be read, are
usable. -/
def AuthInfo.identityOk (env : Environment) (a : AuthInfo) : Bool :=
  match env.data a.clientCertificateData a.clientCertificate,
      env.data a.clientKeyData a.clientKey with
  | .ok (some certificate), .ok (some key) =>
    match Pem.parseAll (key ++ certificate) with
    | .ok blocks => isIdentity blocks
    | .error _ => false
  | _, _ => true

/-- Whether everything for a secure connection is usable. -/
def ClusterAccess.tlsOk (env : Environment) (c : ClusterAccess) : Bool :=
  (c.rootCerts.getD []).all Der.isCertificate && c.auth.identityOk env &&
    c.tlsServerName.all fun name => HostName.isValid name || (IpAddress.parse? name).isSome

/-- Make a connection. -/
def ClusterAccess.connect (env : Environment) (c : ClusterAccess) :
    Except ClientFault Connection := do
  if let some proxy := c.proxyUrl then throw (proxyFault proxy)
  let authentication ← c.auth.authentication env
  if !c.tlsOk env then throw .tls
  let groups := c.auth.impersonateGroups.getD []
  if (c.auth.impersonate.toList ++ groups).any (! isHeaderValue ·) then
    throw (.request "failed to parse header value")
  return ⟨c.clusterUrl, authentication, c.auth.impersonate, groups⟩

end ClusterAgent
