/-
Reading JSON.

* `Json.parse?` — the value that a text is, if it is one;
* `Json.field?`, `Json.text?`, `Json.truth?`, `Json.natural?` — what is inside a
  value.

Design notes: a text is one value between blanks.  Values may be nested as deep
as `deepest` and not deeper.  Of fields with the same name all are kept.
-/
import ClusterAgent.Decimal.Numeral
import ClusterAgent.Json.Value

namespace ClusterAgent.Json

/-- How deep values may be nested. -/
def deepest : Nat := 127

/-- Whether a character may stand between values. -/
def isSpace (c : Char) : Bool := c = ' ' || c = '\t' || c = '\n' || c = '\r'

/-- Pass the blanks in front. -/
def skipSpace (cs : List Char) : List Char := cs.dropWhile isSpace

/-! ### Scalars -/

/-- The character of an escape with one letter. -/
def escapeLetter? (c : Char) : Option Char :=
  match c with
  | '"' => some '"'
  | '\\' => some '\\'
  | '/' => some '/'
  | 'b' => some (Char.ofNat 8)
  | 'f' => some (Char.ofNat 12)
  | 'n' => some '\n'
  | 'r' => some '\r'
  | 't' => some '\t'
  | _ => none

/-- The value of a hexadecimal digit. -/
def hexDigit? (c : Char) : Option Nat :=
  if c.isDigit then some (c.toNat - '0'.toNat)
  else if 'a' ≤ c.toLower && c.toLower ≤ 'f' then some (c.toLower.toNat - 'a'.toNat + 10)
  else none

/-- The value of four hexadecimal digits. -/
def hexUnit? (a b c d : Char) : Option Nat := do
  return 4096 * (← hexDigit? a) + 256 * (← hexDigit? b) + 16 * (← hexDigit? c) + (← hexDigit? d)

/-- Read a string, after its first quote, onto the characters read before. A
character beyond 16 bits is written as two units, neither of which stands alone. -/
def readString (out : List Char) : List Char → Option (String × List Char)
  | '"' :: rest => some (String.ofList out.reverse, rest)
  | '\\' :: 'u' :: a :: b :: c :: d :: '\\' :: 'u' :: e :: f :: g :: h :: rest => do
    let high ← hexUnit? a b c d
    if high < 0xd800 || 0xe000 ≤ high then
      readString (Char.ofNat high :: out) ('\\' :: 'u' :: e :: f :: g :: h :: rest)
    else
      let low ← hexUnit? e f g h
      if high < 0xdc00 && 0xdc00 ≤ low && low < 0xe000 then
        readString (Char.ofNat (0x10000 + (high - 0xd800) * 0x400 + (low - 0xdc00)) :: out) rest
      else none
  | '\\' :: 'u' :: a :: b :: c :: d :: rest => do
    let unit ← hexUnit? a b c d
    if unit < 0xd800 || 0xe000 ≤ unit then readString (Char.ofNat unit :: out) rest else none
  | '\\' :: c :: rest => do
    readString ((← escapeLetter? c) :: out) rest
  | c :: rest => if c.toNat < 32 then none else readString (c :: out) rest
  | [] => none
termination_by cs => cs.length

/-- Cut off the digits in front, of which there must be one. -/
def cutDigits (cs : List Char) : Option (List Char × List Char) :=
  let digits := cs.takeWhile Char.isDigit
  if digits.isEmpty then none else some (digits, cs.drop digits.length)

/-- The exponent of a number, if it has one. -/
def readExponent (cs : List Char) : Option (Option Int × List Char) :=
  match cs with
  | e :: rest =>
    if e = 'e' || e = 'E' then do
      let (negative, rest) := match rest with
        | '-' :: rest => (true, rest)
        | '+' :: rest => (false, rest)
        | rest => (false, rest)
      let (digits, rest) ← cutDigits rest
      let n : Int := Decimal.digitsValue digits
      return (some (if negative then -n else n), rest)
    else some (none, cs)
  | [] => some (none, [])

/-- Read a number: an integer has neither a fraction nor an exponent, and no zero
in front of other digits. -/
def readNumber (cs : List Char) : Option (Json × List Char) := do
  let (negative, rest) := match cs with
    | '-' :: rest => (true, rest)
    | rest => (false, rest)
  let (whole, rest) ← cutDigits rest
  if whole.head? = some '0' && whole.length ≠ 1 then none
  else
    let (fraction, rest) ← match rest with
      | '.' :: rest => (cutDigits rest).map fun (digits, rest) => (some digits, rest)
      | rest => some (none, rest)
    let (exponent, rest) ← readExponent rest
    if fraction.isNone && exponent.isNone then
      let n : Int := Decimal.digitsValue whole
      return (integer (if negative then -n else n), rest)
    else
      let digits := fraction.getD []
      let x := Decimal.nearestDouble (Decimal.digitsValue (whole ++ digits))
        (exponent.getD 0 - digits.length)
      return (double (if negative then -x else x), rest)

/-! ### Values -/

/-- Pass a word that must come next. -/
def word (w : String) (v : Json) (cs : List Char) : Option (Json × List Char) :=
  if w.toList.isPrefixOf cs then some (v, cs.drop w.length) else none

mutual

/-- Read a value that nests at most `depth` deep. -/
def readValue : Nat → Nat → List Char → Option (Json × List Char)
  | 0, _, _ => none
  | fuel + 1, depth, cs =>
    match skipSpace cs with
    | 'n' :: rest => word "null" null ('n' :: rest)
    | 't' :: rest => word "true" (bool true) ('t' :: rest)
    | 'f' :: rest => word "false" (bool false) ('f' :: rest)
    | '"' :: rest => (readString [] rest).map fun (s, rest) => (string s, rest)
    | '[' :: rest =>
      if depth = 0 then none
      else match skipSpace rest with
        | ']' :: rest => some (array [], rest)
        | rest => (readItems fuel (depth - 1) rest).map fun (vs, rest) => (array vs, rest)
    | '\x7b' :: rest =>
      if depth = 0 then none
      else match skipSpace rest with
        | '\x7d' :: rest => some (object [], rest)
        | rest => (readFields fuel (depth - 1) rest).map fun (fs, rest) => (object fs, rest)
    | rest => readNumber rest

/-- Read the items of an array, one at least, and its bracket. -/
def readItems : Nat → Nat → List Char → Option (List Json × List Char)
  | 0, _, _ => none
  | fuel + 1, depth, cs => do
    let (v, rest) ← readValue fuel depth cs
    match skipSpace rest with
    | ',' :: rest =>
      let (vs, rest) ← readItems fuel depth rest
      return (v :: vs, rest)
    | ']' :: rest => return ([v], rest)
    | _ => none

/-- Read the fields of an object, one at least, and its brace. -/
def readFields : Nat → Nat → List Char → Option (List (String × Json) × List Char)
  | 0, _, _ => none
  | fuel + 1, depth, cs => do
    let '"' :: rest := skipSpace cs | none
    let (k, rest) ← readString [] rest
    let ':' :: rest := skipSpace rest | none
    let (v, rest) ← readValue fuel depth rest
    match skipSpace rest with
    | ',' :: rest =>
      let (fs, rest) ← readFields fuel depth rest
      return ((k, v) :: fs, rest)
    | '\x7d' :: rest => return ([(k, v)], rest)
    | _ => none

end

/-- The value that a text is. -/
def parse? (s : String) : Option Json := do
  let cs := s.toList
  let (v, rest) ← readValue (2 * cs.length + 2) deepest cs
  if (skipSpace rest).isEmpty then some v else none

/-! ### What is inside a value -/

/-- Text. -/
def text? : Json → Option String
  | string s => some s
  | _ => none

/-- A truth value. -/
def truth? : Json → Option Bool
  | bool b => some b
  | _ => none

/-- A natural number of at most `most`. -/
def natural? (most : Nat) : Json → Option Nat
  | integer n => if 0 ≤ n && n ≤ most then some n.toNat else none
  | _ => none

/-- The fields of an object. -/
def fields? : Json → Option (List (String × Json))
  | object fs => some fs
  | _ => none

/-- A list. -/
def listOf? {α : Type} (read : Json → Option α) : Json → Option (List α)
  | array items => items.mapM read
  | _ => none

/-- A value or nothing. -/
def optional? {α : Type} (read : Json → Option α) : Json → Option (Option α)
  | null => some none
  | v => (read v).map some

end ClusterAgent.Json
