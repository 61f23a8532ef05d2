/-
Reading numerals.

* `readNatural` — a natural number of bounded size, with an optional plus sign;
* `readInteger` — an integer between two bounds, with an optional sign;
* `readDouble` — a decimal with fraction and exponent, or the name of a special
  value, rounded to the nearest double.

Design notes: a reader walks the digits from the left and reports the first
thing that is wrong.  At a character that is no digit it stops before it looks
at the size, so a number that is both too large and malformed is reported by
whichever fault comes first.
-/
namespace ClusterAgent.Decimal

/-- What is wrong with a numeral. -/
inductive NumeralFault where
  | empty
  | invalidDigit
  | tooLarge
  | tooSmall
deriving DecidableEq

/-- The text of a fault. -/
def NumeralFault.message : NumeralFault → String
  | .empty => "cannot parse integer from empty string"
  | .invalidDigit => "invalid digit found in string"
  | .tooLarge => "number too large to fit in target type"
  | .tooSmall => "number too small to fit in target type"

/-- The value of a decimal digit. -/
def digit? (c : Char) : Option Nat :=
  if c.isDigit then some (c.toNat - '0'.toNat) else none

/-- Read digits onto a value already read; `excess` is the fault of passing `most`. -/
def readDigits (most : Nat) (excess : NumeralFault) : Nat → List Char → Except NumeralFault Nat
  | value, [] => .ok value
  | value, c :: rest =>
    match digit? c with
    | none => .error .invalidDigit
    | some d =>
      if 10 * value + d ≤ most then readDigits most excess (10 * value + d) rest else .error excess

/-- Read a natural number of at most `most`. -/
def readNatural (most : Nat) : List Char → Except NumeralFault Nat
  | [] => .error .empty
  | ['+'] => .error .invalidDigit
  | '+' :: digits => readDigits most .tooLarge 0 digits
  | digits => readDigits most .tooLarge 0 digits

/-- Read an integer between `-least` and `most`. -/
def readInteger (least most : Nat) : List Char → Except NumeralFault Int
  | [] => .error .empty
  | ['+'] => .error .invalidDigit
  | ['-'] => .error .invalidDigit
  | '+' :: digits => (readDigits most .tooLarge 0 digits).map Int.ofNat
  | '-' :: digits => (readDigits least .tooSmall 0 digits).map fun n => -(n : Int)
  | digits => (readDigits most .tooLarge 0 digits).map Int.ofNat

/-! ### Doubles -/

/-- What is wrong with the text of a double. -/
inductive DoubleFault where
  | empty
  | malformed
deriving DecidableEq

/-- The text of a fault. -/
def DoubleFault.message : DoubleFault → String
  | .empty => "cannot parse float from empty string"
  | .malformed => "invalid float literal"

/-- The value of a run of digits. -/
def digitsValue (cs : List Char) : Nat :=
  cs.foldl (fun n c => 10 * n + (c.toNat - '0'.toNat)) 0

/-- The nearest double to `digits · 10^exponent`. An exponent far beyond the
range of doubles is not worked out. -/
def nearestDouble (digits : Nat) (exponent : Int) : Float :=
  let lead := exponent + (Nat.toDigits 10 digits).length
  if digits = 0 || lead < -400 then 0
  else if lead > 400 then Float.ofBits 0x7ff0000000000000
  else Float.ofScientific digits (exponent < 0) exponent.natAbs

/-- The exponent part: absent, or `e` with at least one digit. -/
def readExponent : List Char → Option Int
  | [] => some 0
  | e :: rest =>
    if e = 'e' || e = 'E' then
      let (negative, digits) := match rest with
        | '-' :: ds => (true, ds)
        | '+' :: ds => (false, ds)
        | ds => (false, ds)
      if digits.isEmpty || digits.any (! ·.isDigit) then none
      else some (if negative then -(digitsValue digits : Int) else digitsValue digits)
    else none

/-- A double without its sign. -/
def readMagnitude (cs : List Char) : Option Float :=
  let name := cs.map Char.toLower
  if name = "inf".toList || name = "infinity".toList then some (Float.ofBits 0x7ff0000000000000)
  else if name = "nan".toList then some (Float.ofBits 0x7ff8000000000000)
  else
    let whole := cs.takeWhile Char.isDigit
    let rest := cs.dropWhile Char.isDigit
    let (fraction, rest) := match rest with
      | '.' :: r => (r.takeWhile Char.isDigit, r.dropWhile Char.isDigit)
      | r => ([], r)
    if whole.isEmpty && fraction.isEmpty then none
    else (readExponent rest).map fun e =>
      nearestDouble (digitsValue (whole ++ fraction)) (e - fraction.length)

/-- Read a double. -/
def readDouble : List Char → Except DoubleFault Float
  | [] => .error .empty
  | '-' :: cs => match readMagnitude cs with
    | some x => .ok (-x)
    | none => .error .malformed
  | '+' :: cs => match readMagnitude cs with
    | some x => .ok x
    | none => .error .malformed
  | cs => match readMagnitude cs with
    | some x => .ok x
    | none => .error .malformed

end ClusterAgent.Decimal
