/-
Discovery: which kinds of resources the control plane serves.

All groups are asked for, and each version of each group; then the versions of
the core group, and each of them.  Of a group only one version counts: the one
it prefers, or else the best of those there are.

* `Discovery.run` — the whole inquiry;
* `ServedGroup.recommended` — the kinds of the version that counts;
* `Discovery.kinds` — those of all groups, of which each name counts once.
-/
import ClusterAgent.Controller.Catalog
import ClusterAgent.Discovery.Listing
import ClusterAgent.Discovery.Plan
import ClusterAgent.Discovery.Version
import ClusterAgent.Keyed

namespace ClusterAgent

/-- The kinds of one version. -/
structure ServedVersion where
  version : String
  kinds : List ResourceKind

/-- A group with its versions, the best first. -/
structure ServedGroup where
  name : String
  versions : List ServedVersion
  preferred : Option String

namespace ServedGroup

/-- A group whose versions are put in order. -/
def sorted (name : String) (versions : List ServedVersion) (preferred : Option String) :
    ServedGroup :=
  let notAfter (a b : ServedVersion) : Bool :=
    !ApiVersion.before (.parse b.version) (.parse a.version)
  ⟨name, versions.mergeSort notAfter, preferred⟩

/-- The name of the version that counts. -/
def counted? (g : ServedGroup) : Option String :=
  g.preferred.or (g.versions.head?.map (·.version))

/-- The kinds of the version that counts; none if it is not served. -/
def recommended (g : ServedGroup) : List ResourceKind :=
  match g.counted? with
  | some version => ((g.versions.find? (·.version == version)).map (·.kinds)).getD []
  | none => []

end ServedGroup

namespace Discovery

/-- Group and version as they are joined by a slash; without one there is no
group. -/
def splitGroupVersion (s : String) : String × String :=
  let cs := s.toList
  match cs.dropWhile (· != '/') with
  | _ :: version => (String.ofList (cs.takeWhile (· != '/')), String.ofList version)
  | [] => ("", s)

/-- The kinds in a listing. Parts of a resource are none. -/
def kindsOf (l : ResourceListing) : List ResourceKind :=
  let (group, version) := splitGroupVersion l.groupVersion
  let served := l.resources.filter fun r => !r.name.toList.contains '/'
  served.map fun r => ⟨r.group.getD group, r.version.getD version, r.kind, r.name⟩

/-- Ask for the kinds of a version. -/
def version (name path : String) : Inquiry ServedVersion := do
  return ⟨name, kindsOf (← Inquiry.read path ResourceListing.ofJson?)⟩

/-- Ask for the versions of a group. -/
def group (l : GroupListing) : Inquiry ServedGroup := do
  if l.versions.isEmpty then throw (.emptyGroup l.name)
  let versions ← l.versions.mapM fun v => version v.version ("/apis/" ++ v.groupVersion)
  return ServedGroup.sorted l.name versions (l.preferred.map (·.version))

/-- The name of the core group. -/
def coreName : String := ""

/-- The version of the core group that counts. -/
def coreVersion : String := "v1"

/-- Ask for the versions of the core group. -/
def core : Inquiry ServedGroup := do
  let names ← Inquiry.read "/api" coreVersionsOfJson?
  if names.isEmpty then throw (.emptyGroup coreName)
  let versions ← names.mapM fun name => version name ("/api/" ++ name)
  return ServedGroup.sorted coreName versions (some coreVersion)

/-- Ask for everything. -/
def run : Inquiry (List ServedGroup) := do
  let listings ← Inquiry.read "/apis" GroupListing.allOfJson?
  let groups ← listings.mapM group
  return groups ++ [← core]

/-- The kinds that count. Of groups with the same name the last one counts. -/
def kinds (groups : List ServedGroup) : List ResourceKind :=
  let named := groups.foldl (fun known g => Keyed.upsert g.name (fun _ => g) known) []
  named.flatMap fun (_, g) => g.recommended

end Discovery

end ClusterAgent
