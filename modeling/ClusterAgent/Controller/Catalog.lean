/-
The catalog of resource kinds that the control plane serves.

* `ResourceKind.apiVersion` — the group and version a kind is addressed by;
* `Catalog.replace` — a new list takes the place of the old one as a whole, so a
  list taken before stays what it was.
-/
namespace ClusterAgent

/-- One served kind of resource. -/
structure ResourceKind where
  group : String
  version : String
  kind : String
  plural : String
deriving DecidableEq

/-- The version with its group in front; the core group has no name. -/
def ResourceKind.apiVersion (k : ResourceKind) : String :=
  if k.group = "" then k.version else k.group ++ "/" ++ k.version

/-- What the last discovery found. -/
structure Catalog where
  kinds : List ResourceKind
deriving DecidableEq

namespace Catalog

/-- Nothing was found yet. -/
def empty : Catalog := ⟨[]⟩

/-- How many kinds are served. -/
def size (c : Catalog) : Nat := c.kinds.length

/-- Put a new list in place of the old one. -/
def replace (_ : Catalog) (kinds : List ResourceKind) : Catalog := ⟨kinds⟩

/-- The kinds by group, version, kind and plural. -/
def sorted (c : Catalog) : List ResourceKind :=
  let key (k : ResourceKind) : List String := [k.group, k.version, k.kind, k.plural]
  c.kinds.mergeSort fun a b => !decide (key b < key a)

end Catalog

end ClusterAgent
