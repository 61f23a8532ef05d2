/-
What the control plane answers to a discovery.

* `GroupListing`, `ResourceListing` — a group, and the resources of a version;
* `groupsOfJson?`, `coreVersionsOfJson?`, `ResourceListing.ofJson?` — the groups, the
  versions of the core group and the resources, each from JSON.

Design notes: a field that is not given, or given as nothing, is empty.  A kind
or version of the listing itself, if given, must be the right one.  What no one
uses is checked and not kept.
-/
import ClusterAgent.Json.Reader

namespace ClusterAgent

/-- The name of a version, alone and with its group. -/
structure VersionName where
  groupVersion : String
  version : String

/-- A group of resources. -/
structure GroupListing where
  name : String
  versions : List VersionName
  preferred : Option VersionName

/-- A resource of a version. -/
structure ResourceEntry where
  name : String
  kind : String
  group : Option String
  version : Option String

/-- The resources of a version. -/
structure ResourceListing where
  groupVersion : String
  resources : List ResourceEntry

namespace Listing

/-- The fields of an object. -/
abbrev Fields := List (String × Json)

/-- The last field of a name, each of which must be readable, or nothing. -/
def field? {α : Type} (read : Json → Option α) (name : String) (fs : Fields) :
    Option (Option α) := do
  let values ← (fs.filter (·.1 == name)).mapM fun (_, v) => Json.optional? read v
  return values.getLast?.join

/-- Text, empty if it is not given. -/
def textField? (name : String) (fs : Fields) : Option String :=
  (field? Json.text? name fs).map (·.getD "")

/-- A list, empty if it is not given. -/
def listField? {α : Type} (read : Json → Option α) (name : String) (fs : Fields) :
    Option (List α) :=
  (field? (Json.listOf? read) name fs).map (·.getD [])

/-- The fields of a listing of a kind. -/
def fieldsOfKind? (kind : String) (v : Json) : Option Fields := do
  let fs ← v.fields?
  let agrees (name value : String) : Bool :=
    (fs.filter (·.1 == name)).all fun (_, v) => v.text? == some value
  if agrees "apiVersion" "v1" && agrees "kind" kind then some fs else none

/-- The addresses of the control plane are checked and not kept. -/
def addresses? (fs : Fields) : Option Unit := do
  let address (v : Json) : Option Unit := do
    let fs ← v.fields?
    let _ ← textField? "clientCIDR" fs
    let _ ← textField? "serverAddress" fs
  let _ ← listField? address "serverAddressByClientCIDRs" fs

end Listing

open Listing

/-- The name of a version. -/
def VersionName.ofJson? (v : Json) : Option VersionName := do
  let fs ← v.fields?
  return ⟨← textField? "groupVersion" fs, ← textField? "version" fs⟩

/-- A group. -/
def GroupListing.ofJson? (v : Json) : Option GroupListing := do
  let fs ← fieldsOfKind? "APIGroup" v
  addresses? fs
  return {
    name := ← textField? "name" fs
    versions := ← listField? VersionName.ofJson? "versions" fs
    preferred := ← field? VersionName.ofJson? "preferredVersion" fs }

/-- All groups. -/
def GroupListing.allOfJson? (v : Json) : Option (List GroupListing) := do
  listField? GroupListing.ofJson? "groups" (← fieldsOfKind? "APIGroupList" v)

/-- The versions of the core group. -/
def coreVersionsOfJson? (v : Json) : Option (List String) := do
  let fs ← fieldsOfKind? "APIVersions" v
  addresses? fs
  listField? Json.text? "versions" fs

/-- A resource. -/
def ResourceEntry.ofJson? (v : Json) : Option ResourceEntry := do
  let fs ← v.fields?
  let _ ← field? Json.truth? "namespaced" fs
  let _ ← textField? "singularName" fs
  let _ ← textField? "storageVersionHash" fs
  let _ ← listField? Json.text? "verbs" fs
  let _ ← listField? Json.text? "shortNames" fs
  let _ ← listField? Json.text? "categories" fs
  return {
    name := ← textField? "name" fs
    kind := ← textField? "kind" fs
    group := ← field? Json.text? "group" fs
    version := ← field? Json.text? "version" fs }

/-- The resources of a version. -/
def ResourceListing.ofJson? (v : Json) : Option ResourceListing := do
  let fs ← fieldsOfKind? "APIResourceList" v
  return ⟨← textField? "groupVersion" fs, ← listField? ResourceEntry.ofJson? "resources" fs⟩

end ClusterAgent
