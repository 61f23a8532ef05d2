/-
Doubles as exact fractions.

A finite double is `± m · 2^q`.  `Binary` is that reading of its bits; every
exact statement about doubles in this library (which decimal is shortest, which
nanosecond is nearest) is made on `m` and `q`.

* `nearestEven` — the quotient of two naturals rounded to the nearest
  integer, a half going to the even neighbour;
* `nearestEven_near` — it lies within half a unit of the exact quotient.
-/
namespace ClusterAgent.Decimal

/-- The size of a finite double, `mantissa · 2^exponent`. -/
structure Binary where
  mantissa : Nat
  exponent : Int
  /-- The double next below is half as far away as the one next above. -/
  narrowBelow : Bool

/-- Whether the double is neither infinite nor a NaN. -/
def isFinite (x : Float) : Bool := (x.toBits >>> 52) &&& 0x7ff != 0x7ff

/-- Whether the sign bit is set. -/
def isNegative (x : Float) : Bool := x.toBits >>> 63 == 1

/-- The exact size of a finite double. -/
def Binary.ofFloat (x : Float) : Binary :=
  let field := ((x.toBits >>> 52) &&& 0x7ff).toNat
  let fraction := (x.toBits &&& 0xfffffffffffff).toNat
  if field = 0 then ⟨fraction, -1074, false⟩
  else ⟨Nat.pow 2 52 + fraction, (field : Int) - 1075, fraction == 0 && field > 1⟩

/-- The numerator and denominator of `n · 2^q`. -/
def scaled (n : Nat) (q : Int) : Nat × Nat := (n * Nat.pow 2 q.toNat, Nat.pow 2 (-q).toNat)

/-- The quotient rounded to the nearest integer, halves to the even one. -/
def nearestEven (num den : Nat) : Nat :=
  let low := num / den
  match compare (2 * (num % den)) den with
  | .lt => low
  | .gt => low + 1
  | .eq => low + low % 2

theorem nearestEven_near (num den : Nat) (h : 0 < den) :
    2 * (nearestEven num den * den) ≤ 2 * num + den ∧
      2 * num ≤ 2 * (nearestEven num den * den) + den := by
  have split : den * (num / den) + num % den = num := Nat.div_add_mod num den
  have small : num % den < den := Nat.mod_lt _ h
  have up : (num / den + 1) * den = den * (num / den) + den := by
    rw [Nat.add_mul, Nat.mul_comm]
    simp
  have same : num / den * den = den * (num / den) := Nat.mul_comm ..
  rw [nearestEven]
  split
  · rename_i c; rw [Nat.compare_eq_lt] at c; omega
  · rename_i c; rw [Nat.compare_eq_gt] at c; omega
  · rename_i c; rw [Nat.compare_eq_eq] at c
    rcases Nat.mod_two_eq_zero_or_one (num / den) with e | e <;> rw [e]
    · simp only [Nat.add_zero]; omega
    · omega

end ClusterAgent.Decimal
