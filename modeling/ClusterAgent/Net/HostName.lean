/-
Names of hosts.

`HostName.isValid` tells the names that can be looked up: labels separated by
points, of which the last is not a mere number.  A point at the end is allowed.
-/
namespace ClusterAgent.HostName

/-- How long a label may be. -/
def longestLabel : Nat := 63

/-- How long a name may be. -/
def longestName : Nat := 253

/-- Whether a character may stand in a label. -/
def isLabelChar (c : Char) : Bool := c.isAlphanum || c == '-' || c == '_'

/-- Whether a label is well formed. -/
def isLabel (label : String) : Bool :=
  let cs := label.toList
  !cs.isEmpty && cs.length ≤ longestLabel && cs.all isLabelChar && cs.head? != some '-' &&
    cs.getLast? != some '-'

/-- The labels of a name; a point at the end begins none. -/
def labels (name : String) : List String :=
  match (name.splitOn ".").reverse with
  | "" :: label :: rest => (label :: rest).reverse
  | labels => labels.reverse

/-- Whether a name is well formed. -/
def isValid (name : String) : Bool :=
  name.utf8ByteSize ≤ longestName && (labels name).all isLabel &&
    (labels name).getLast?.any fun label => !label.toList.all Char.isDigit

end ClusterAgent.HostName
