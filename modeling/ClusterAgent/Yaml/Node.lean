/-
YAML values.

A scalar without quotes is what it looks like: nothing, a truth value, a number,
or else text.

* `Node.ofPlain?` — the value of a scalar without quotes;
* `Node.ofTagged?` — the value of a scalar whose type is named.

Design notes: a number is kept as it was written, since no one here computes
with it.
-/
import ClusterAgent.Decimal.Binary
import ClusterAgent.Decimal.Numeral

namespace ClusterAgent.Yaml

/-- A YAML value. -/
inductive Node where
  | null
  | bool (b : Bool)
  | number (written : String)
  | text (s : String)
  | sequence (items : List Node)
  | mapping (entries : List (Node × Node))
deriving BEq

namespace Node

mutual

/-- How deep collections are nested in a value. -/
def depth : Node → Nat
  | sequence items => depthOfItems items + 1
  | mapping entries => depthOfEntries entries + 1
  | _ => 0

/-- The depth of the deepest item. -/
def depthOfItems : List Node → Nat
  | [] => 0
  | n :: rest => max n.depth (depthOfItems rest)

/-- The depth of the deepest key or value. -/
def depthOfEntries : List (Node × Node) → Nat
  | [] => 0
  | (k, v) :: rest => max (max k.depth v.depth) (depthOfEntries rest)

end

/-- The value of a digit, letters being digits above nine. -/
def digit (c : Char) : Nat :=
  if c.isDigit then c.toNat - '0'.toNat else c.toLower.toNat - 'a'.toNat + 10

/-- The value of one or more digits of a base. -/
def natural? (base : Nat) (cs : List Char) : Option Nat :=
  if !cs.isEmpty && cs.all fun c => c.isAlphanum && digit c < base then
    some (cs.foldl (fun n c => base * n + digit c) 0)
  else none

/-- The value of a scalar without its sign, if it is a whole number. Digits with a
zero in front of them are none. -/
def whole? : List Char → Option Nat
  | '0' :: 'x' :: cs => natural? 16 cs
  | '0' :: 'o' :: cs => natural? 8 cs
  | '0' :: 'b' :: cs => natural? 2 cs
  | '0' :: _ :: _ => none
  | cs => natural? 10 cs

/-- Whether a whole number can be kept in so many bits. -/
def fits (bits : Nat) (negative : Bool) (n : Nat) : Bool :=
  if negative then n ≤ Nat.pow 2 (bits - 1) else n < Nat.pow 2 bits

/-- Whether a scalar without its sign is a double. -/
def isDouble (cs : List Char) : Bool :=
  cs ∈ [".inf".toList, ".Inf".toList, ".INF".toList] ||
    (Decimal.readMagnitude cs).any Decimal.isFinite

/-- Whether characters are digits that begin with a zero. -/
def isPadded : List Char → Bool
  | '0' :: c :: cs => (c :: cs).all Char.isDigit
  | _ => false

/-- A scalar without its sign. -/
def unsigned : List Char → List Char
  | '+' :: cs => cs
  | '-' :: cs => cs
  | cs => cs

/-- Whether a scalar is a whole number of so many bits. -/
def isWhole (bits : Nat) (s : String) : Bool :=
  (whole? (unsigned s.toList)).any (fits bits (s.toList.head? == some '-'))

/-- Whether a scalar is a number with a fraction, or could be one. -/
def isReal (s : String) : Bool :=
  s ∈ [".nan", ".NaN", ".NAN"] || isDouble (unsigned s.toList)

/-- The names of nothing. -/
def nullNames : List String := ["~", "null", "Null", "NULL"]

/-- The truth value of a name. -/
def truth? (s : String) : Option Bool :=
  if s ∈ ["true", "True", "TRUE"] then some true
  else if s ∈ ["false", "False", "FALSE"] then some false
  else none

/-- The value of a scalar without quotes. Whole numbers are kept in 64 bits; one
that takes more, up to 128, has no value, and one beyond these is a double. -/
def ofPlain? (s : String) : Option Node :=
  if s = "" || s ∈ nullNames then some null
  else if let some b := truth? s then some (bool b)
  else if isWhole 64 s then some (number s)
  else if isWhole 128 s then none
  else if !isPadded (unsigned s.toList) && isReal s then some (number s)
  else some (text s)

/-- The value of a scalar with a tag. A tag that names a common type holds the
scalar to it; any other one leaves it as it is. -/
def ofTagged? (tag : String) (untagged : String → Option Node) (s : String) : Option Node :=
  match tag with
  | "!null" => if s ∈ nullNames then some null else none
  | "!bool" => (truth? s).map bool
  | "!int" => if isWhole 64 s then some (number s) else none
  | "!float" => if isReal s then some (number s) else none
  | "!str" => some (text s)
  | _ => untagged s

end Node

end ClusterAgent.Yaml
