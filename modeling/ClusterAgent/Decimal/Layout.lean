/-
How doubles are written.

`Layout` holds the decisions of one output format, `Layout.write` applies them
to the shortest digits.  Three formats are used: `plain` for metric values and
messages, `console` for log lines, `json` for JSON documents.  The special values are
texts of the format and never digits.
-/
import ClusterAgent.Decimal.Shortest

namespace ClusterAgent.Decimal

/-- The decisions of an output format for doubles. -/
structure Layout where
  /-- Least exponent of the leading digit that is written without exponent;
  no bound if absent. -/
  positionalFrom : Option Int
  /-- First exponent of the leading digit that is written with an exponent. -/
  positionalBelow : Option Int
  /-- Whether a whole number written without exponent ends in `.0`. -/
  pointZero : Bool
  /-- Whether a positive exponent carries its sign. -/
  plusSign : Bool
  tie : Tie
  nan : String
  infinity : String
  /-- Whether a negative infinity carries its sign. -/
  signedInfinity : Bool

/-- Metric values and messages: no exponent at all, whole numbers bare. -/
def plain : Layout where
  positionalFrom := none
  positionalBelow := none
  pointZero := false
  plusSign := false
  tie := .up
  nan := "NaN"
  infinity := "inf"
  signedInfinity := true

/-- Log lines: positional from `10^-4` and below `10^16`. -/
def console : Layout where
  positionalFrom := some (-4)
  positionalBelow := some 16
  pointZero := true
  plusSign := false
  tie := .up
  nan := "NaN"
  infinity := "inf"
  signedInfinity := true

/-- JSON documents: positional from `10^-5` and below `10^16`; what JSON has no
number for is null. -/
def json : Layout where
  positionalFrom := some (-5)
  positionalBelow := some 16
  pointZero := true
  plusSign := true
  tie := .even
  nan := "null"
  infinity := "null"
  signedInfinity := false

/-- Digits written out with a point, `lead` being the exponent of the first. -/
def positional (pointZero : Bool) (digits : List Char) (lead : Int) : List Char :=
  if lead < 0 then '0' :: '.' :: List.replicate (-lead - 1).toNat '0' ++ digits
  else
    let whole := lead.toNat + 1
    if digits.length ≤ whole then
      digits ++ List.replicate (whole - digits.length) '0' ++ (if pointZero then ['.', '0'] else [])
    else digits.take whole ++ '.' :: digits.drop whole

/-- Digits written with an exponent. -/
def withExponent (plusSign : Bool) (digits : List Char) (lead : Int) : List Char :=
  let fraction := match digits.drop 1 with
    | [] => []
    | rest => '.' :: rest
  let sign := if lead < 0 then ['-'] else if plusSign then ['+'] else []
  digits.take 1 ++ fraction ++ 'e' :: sign ++ Nat.toDigits 10 lead.natAbs

/-- Lay a decimal out as the format asks. -/
def Layout.arrange (l : Layout) (d : Scientific) : List Char :=
  let digits := Nat.toDigits 10 d.digits
  let lead := d.exponent + (digits.length : Int) - 1
  let fromOk := l.positionalFrom.all (· ≤ lead)
  let belowOk := l.positionalBelow.all (lead < ·)
  if d.digits = 0 || (fromOk && belowOk) then positional l.pointZero digits lead
  else withExponent l.plusSign digits lead

/-- Write a double. -/
def Layout.write (l : Layout) (x : Float) : String :=
  let sign := if isNegative x then "-" else ""
  if x.isNaN then l.nan
  else if isFinite x then
    let b := Binary.ofFloat x
    sign ++ String.ofList (l.arrange (if b.mantissa = 0 then ⟨0, 0⟩ else shortest l.tie b))
  else if l.signedInfinity then sign ++ l.infinity
  else l.infinity

end ClusterAgent.Decimal
