/-
Versions of served resources.

* `ApiVersion.parse` — `v2`, `v1beta3`, `v1alpha`, or a name of another form;
* `ApiVersion.before` — which of two versions is to be preferred: a stable one to
  a beta and that to an alpha one, then the higher number, and any of these to a
  name of another form.
-/
import ClusterAgent.Decimal.Numeral

namespace ClusterAgent

/-- A version as its name tells it. -/
inductive ApiVersion where
  | stable (major : Nat)
  | beta (major : Nat) (minor : Option Nat)
  | alpha (major : Nat) (minor : Option Nat)
  | other (name : String)
deriving DecidableEq

namespace ApiVersion

/-- Numbers in a version have 32 bits. -/
def mostNumber : Nat := 4294967295

/-- The number of a text, which may be missing altogether. -/
def minor? (cs : List Char) : Option (Option Nat) :=
  if cs.isEmpty then some none
  else (Decimal.readNatural mostNumber cs).toOption.map some

/-- What follows a word. -/
def after? (word : String) (cs : List Char) : Option (List Char) :=
  if word.toList.isPrefixOf cs then some (cs.drop word.length) else none

/-- A version of one of the common forms. -/
def common? (name : String) : Option ApiVersion :=
  match name.toList with
  | 'v' :: cs =>
    let digits := cs.takeWhile Char.isDigit
    match Decimal.readNatural mostNumber digits, cs.drop digits.length with
    | .ok major, [] => some (stable major)
    | .ok major, rest =>
      match after? "alpha" rest, after? "beta" rest with
      | some rest, _ => (minor? rest).map (alpha major)
      | none, some rest => (minor? rest).map (beta major)
      | none, none => none
    | .error _, _ => none
  | _ => none

/-- The version of a name. -/
def parse (name : String) : ApiVersion := (common? name).getD (other name)

/-- The rank of a form, the best last. -/
def rank : ApiVersion → Nat
  | stable _ => 3
  | beta .. => 2
  | alpha .. => 1
  | other _ => 0

/-- The numbers of a version; a missing one counts less than any. -/
def numbers : ApiVersion → Nat × Nat
  | stable major => (major, 0)
  | beta major minor => (major, (minor.map (· + 1)).getD 0)
  | alpha major minor => (major, (minor.map (· + 1)).getD 0)
  | other _ => (0, 0)

/-- The name of a version of no common form. -/
def oddName : ApiVersion → String
  | other name => name
  | _ => ""

/-- Whether a version is to be preferred to another. -/
def before (a b : ApiVersion) : Bool :=
  decide (b.rank < a.rank) || (a.rank = b.rank &&
    (decide (b.numbers.1 < a.numbers.1) || (a.numbers.1 = b.numbers.1 &&
      (decide (b.numbers.2 < a.numbers.2) || (a.numbers.2 = b.numbers.2 &&
        decide (a.oddName < b.oddName))))))

end ApiVersion

end ClusterAgent
