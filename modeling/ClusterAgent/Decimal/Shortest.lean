/-
The fewest decimal digits that identify a double.

The reals that round to a double form an interval, closed exactly when the
mantissa is even.  `shortest` tries the decimal grids from one digit to
seventeen and takes the first grid with a point in that interval; of two such
points it takes the nearer one, and a tie goes as `Tie` says.

* `Interval.contains` — the test that a decimal reads back as the double;
* `Scientific.strip` — zeros at the end of the digits move into the exponent.

Design notes: plain integer arithmetic on a common denominator.  Only the two
neighbours of the double on a grid need the test, because the interval holds
the double itself.
-/
import ClusterAgent.Decimal.Binary

namespace ClusterAgent.Decimal

/-- A decimal `digits · 10^exponent`. -/
structure Scientific where
  digits : Nat
  exponent : Int
deriving DecidableEq

/-- Where the choice between two equally near decimals goes. -/
inductive Tie where
  | even
  | up
deriving DecidableEq

/-- The reals that round to a double, as fractions over one denominator. -/
structure Interval where
  low : Nat
  middle : Nat
  high : Nat
  den : Nat
  closed : Bool

/-- The interval of a finite double: halfway to its neighbour on each side. -/
def Interval.ofBinary (b : Binary) : Interval :=
  let part (n : Nat) : Nat := (scaled n (b.exponent - 2)).1
  { low := part (if b.narrowBelow then 4 * b.mantissa - 1 else 4 * b.mantissa - 2)
    middle := part (4 * b.mantissa)
    high := part (4 * b.mantissa + 2)
    den := (scaled 0 (b.exponent - 2)).2
    closed := b.mantissa % 2 == 0 }

/-- Compare `digits · 10^exponent` with `num / den`. -/
def compareWith (d : Scientific) (num den : Nat) : Ordering :=
  compare (d.digits * Nat.pow 10 d.exponent.toNat * den) (num * Nat.pow 10 (-d.exponent).toNat)

/-- Whether the decimal lies in the interval. -/
def Interval.contains (i : Interval) (d : Scientific) : Bool :=
  (match compareWith d i.low i.den with
    | .gt => true
    | .eq => i.closed
    | .lt => false) &&
  (match compareWith d i.high i.den with
    | .lt => true
    | .eq => i.closed
    | .gt => false)

/-- The least `k` such that the middle lies below `10^k`. -/
def Interval.magnitude (i : Interval) : Int :=
  if i.den ≤ i.middle then ((Nat.toDigits 10 (i.middle / i.den)).length : Int)
  else 1 - ((Nat.toDigits 10 ((i.den - 1) / i.middle)).length : Int)

/-- The decimal on the grid of `10^p` at or next below the middle. -/
def Interval.floorOn (i : Interval) (p : Int) : Nat :=
  i.middle * Nat.pow 10 (-p).toNat / (i.den * Nat.pow 10 p.toNat)

/-- The point of one grid that reads back, if any. -/
def Interval.pick? (tie : Tie) (i : Interval) (p : Int) : Option Scientific :=
  let below : Scientific := ⟨i.floorOn p, p⟩
  let above : Scientific := ⟨i.floorOn p + 1, p⟩
  match i.contains below, i.contains above with
  | false, false => none
  | true, false => some below
  | false, true => some above
  | true, true =>
    match compareWith ⟨2 * i.floorOn p + 1, p⟩ (2 * i.middle) i.den with
    | .lt => some above
    | .gt => some below
    | .eq => if tie = .even && i.floorOn p % 2 = 0 then some below else some above

/-- Move zeros at the end of the digits into the exponent. -/
def Scientific.strip (d : Scientific) : Scientific :=
  if d.digits = 0 then ⟨0, 0⟩
  else if d.digits % 10 = 0 then strip ⟨d.digits / 10, d.exponent + 1⟩
  else d
termination_by d.digits
decreasing_by omega

/-- The fewest digits that identify a positive double; the exact value should
seventeen digits not do, which does not happen. -/
def shortest (tie : Tie) (b : Binary) : Scientific :=
  let i := Interval.ofBinary b
  let found := (List.range 17).findSome? fun (n : Nat) => i.pick? tie (i.magnitude - (n : Int) - 1)
  (found.getD ⟨i.middle * Nat.pow 5 (2 - b.exponent).toNat, min (b.exponent - 2) 0⟩).strip

end ClusterAgent.Decimal
