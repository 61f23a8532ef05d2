/-
Kubeconfig files as YAML.

* `Kubeconfig.ofNode?` — the content that a YAML value describes, if it has the
  right structure;
* `Kubeconfig.parseAll` — the content of every document of a text.

Design notes: nothing at all stands for an empty record and an empty list, and
an optional field may be given as nothing.  Text and truth values are taken only
as such; a number is no text.  Fields with other names are passed over.
-/
import ClusterAgent.Kubeconfig.Basic
import ClusterAgent.Yaml.Reader

namespace ClusterAgent.Kubeconfig

open Yaml (Node)

/-! ### Parts of a structure -/

/-- The fields of a record. -/
abbrev Fields := List (String × Node)

/-- A key, which is text. -/
def keyed? (entry : Node × Node) : Option (String × Node) :=
  match entry.1 with
  | .text key => some (key, entry.2)
  | _ => none

/-- A record. -/
def fields? : Node → Option Fields
  | .null => some []
  | .mapping entries => entries.mapM keyed?
  | _ => none

/-- Text. -/
def text? : Node → Option String
  | .text s => some s
  | _ => none

/-- A truth value. -/
def truth? : Node → Option Bool
  | .bool b => some b
  | _ => none

/-- Anything, as long as all keys in it are text. -/
def anything? : Node → Option Unit
  | .sequence items => items.attach.forM fun ⟨n, _⟩ => anything? n
  | .mapping entries =>
    entries.attach.forM fun ⟨(k, v), _⟩ => do
      let _ ← text? k
      anything? v
  | _ => some ()
termination_by n => sizeOf n
decreasing_by
  · have := List.sizeOf_lt_of_mem ‹n ∈ items›
    simp
    omega
  · have := List.sizeOf_lt_of_mem ‹(k, v) ∈ entries›
    simp at this ⊢
    omega

/-- A list. -/
def listOf? {α : Type} (read : Node → Option α) : Node → Option (List α)
  | .null => some []
  | .sequence items => items.mapM read
  | _ => none

/-- Texts under keys. -/
def texts? (n : Node) : Option (List (String × String)) :=
  fields? n >>= List.mapM fun (k, v) => (text? v).map (k, ·)

/-- A value or nothing. -/
def optional? {α : Type} (read : Node → Option α) : Node → Option (Option α)
  | .null => some none
  | n => (read n).map some

/-- A field that must be given. -/
def required? {α : Type} (read : Node → Option α) (name : String) (fs : Fields) : Option α :=
  (fs.lookup name).bind read

/-- A field with a value for when it is not given. -/
def given? {α : Type} (read : Node → Option α) (default : α) (name : String) (fs : Fields) :
    Option α :=
  match fs.lookup name with
  | some n => read n
  | none => some default

/-- A field that may be left out, or be given as nothing. -/
def field? {α : Type} (read : Node → Option α) (name : String) (fs : Fields) : Option (Option α) :=
  given? (optional? read) none name fs

/-! ### The records -/

/-- Extensions are checked and not kept. -/
def extensions? (fs : Fields) : Option Unit := do
  let one (n : Node) : Option Unit := do
    let fs ← fields? n
    let _ ← required? text? "name" fs
    required? anything? "extension" fs
  let _ ← field? (listOf? one) "extensions" fs

/-- A cluster. -/
def cluster? (n : Node) : Option Cluster := do
  let fs ← fields? n
  extensions? fs
  return {
    server := ← field? text? "server" fs
    skipVerify := ← field? truth? "insecure-skip-tls-verify" fs
    authority := ← field? text? "certificate-authority" fs
    authorityData := ← field? text? "certificate-authority-data" fs
    proxyUrl := ← field? text? "proxy-url" fs
    disableCompression := ← field? truth? "disable-compression" fs
    tlsServerName := ← field? text? "tls-server-name" fs }

/-- A context. -/
def context? (n : Node) : Option Context := do
  let fs ← fields? n
  extensions? fs
  return {
    cluster := ← required? text? "cluster" fs
    user := ← field? text? "user" fs
    space := ← field? text? "namespace" fs }

/-- A provider of tokens. -/
def provider? (n : Node) : Option AuthProvider := do
  let fs ← fields? n
  return ⟨← required? text? "name" fs, ← given? texts? [] "config" fs⟩

/-- How a command may ask for input. -/
def interactiveMode? (n : Node) : Option Unit := do
  if (← text? n) ∈ ["Never", "IfAvailable", "Always"] then some () else none

/-- A command that hands out credentials. -/
def exec? (n : Node) : Option ExecPlugin := do
  let fs ← fields? n
  let _ ← field? text? "apiVersion" fs
  let _ ← field? (listOf? text?) "args" fs
  let _ ← field? (listOf? texts?) "env" fs
  let _ ← field? interactiveMode? "interactiveMode" fs
  return ⟨← field? text? "command" fs, ← given? truth? false "provideClusterInfo" fs⟩

/-- A user. -/
def user? (n : Node) : Option AuthInfo := do
  let fs ← fields? n
  return {
    username := ← field? text? "username" fs
    password := ← field? text? "password" fs
    token := ← field? text? "token" fs
    tokenFile := ← field? text? "tokenFile" fs
    clientCertificate := ← field? text? "client-certificate" fs
    clientCertificateData := ← field? text? "client-certificate-data" fs
    clientKey := ← field? text? "client-key" fs
    clientKeyData := ← field? text? "client-key-data" fs
    impersonate := ← field? text? "as" fs
    impersonateGroups := ← field? (listOf? text?) "as-groups" fs
    provider := ← field? provider? "auth-provider" fs
    exec := ← field? exec? "exec" fs }

/-- Entries under their names. -/
def named? {α : Type} (read : Node → Option α) (label : String) : Node → Option (List (Named α)) :=
  listOf? fun n => do
    let fs ← fields? n
    return ⟨← required? text? "name" fs, ← field? read label fs⟩

/-- Preferences are checked and not kept. -/
def preferences? (n : Node) : Option Unit := do
  let fs ← fields? n
  extensions? fs
  let _ ← field? truth? "colors" fs

/-- The content that a YAML value describes. -/
def ofNode? (n : Node) : Option Kubeconfig := do
  let fs ← fields? n
  let _ ← field? preferences? "preferences" fs
  extensions? fs
  return {
    kind := ← field? text? "kind" fs
    apiVersion := ← field? text? "apiVersion" fs
    currentContext := ← field? text? "current-context" fs
    clusters := ← given? (named? cluster? "cluster") [] "clusters" fs
    users := ← given? (named? user? "user") [] "users" fs
    contexts := ← given? (named? context? "context") [] "contexts" fs }

/-! ### Documents -/

/-- Why a text is no kubeconfig. -/
inductive TextFault where
  /-- It is no YAML. -/
  | malformed
  /-- It is YAML of another structure. -/
  | shape
deriving DecidableEq

/-- Read documents from a place on, at most that many. -/
def readDocuments : Nat → Yaml.Place → Except TextFault (List Kubeconfig)
  | 0, _ => .ok []
  | fuel + 1, p =>
    match Yaml.nextDocument p with
    | .error _ => .error .malformed
    | .ok none => .ok []
    | .ok (some (n, rest)) =>
      match ofNode? n with
      | none => .error .shape
      | some k => (readDocuments fuel rest).map (k :: ·)

/-- The content of every document of a text. -/
def parseAll (s : String) : Except TextFault (List Kubeconfig) :=
  match Yaml.startOf s with
  | .error _ => .error .malformed
  | .ok p => readDocuments (p.rest.length + 1) p

end ClusterAgent.Kubeconfig
