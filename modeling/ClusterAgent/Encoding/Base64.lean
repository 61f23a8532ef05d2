/-
Base64 with the standard alphabet and padding.

* `Base64.decode` — the bytes of a text, or the first fault in it;
* `Base64.Fault.message` — the text of a fault, with the byte at fault and its
  offset.

Design notes: the text is read in groups of four.  Padding stands only in the
last group and fills it up, and the bits that it leaves over are zero.
-/
namespace ClusterAgent.Base64

/-- What is wrong with a text. -/
inductive Fault where
  | invalidSymbol (byte : UInt8) (offset : Nat)
  | invalidLength (length : Nat)
  | invalidLastSymbol (byte : UInt8) (offset : Nat)
  | invalidPadding
deriving DecidableEq

/-- The text of a fault. -/
def Fault.message : Fault → String
  | .invalidSymbol b k =>
    "Invalid symbol " ++ toString b.toNat ++ ", offset " ++ toString k ++ "."
  | .invalidLength n => "Invalid input length: " ++ toString n
  | .invalidLastSymbol b k =>
    "Invalid last symbol " ++ toString b.toNat ++ ", offset " ++ toString k ++ "."
  | .invalidPadding => "Invalid padding"

/-- The padding sign. -/
def pad : UInt8 := 61

/-- The six bits of a symbol. -/
def value? (b : UInt8) : Option Nat :=
  let n := b.toNat
  if 65 ≤ n && n ≤ 90 then some (n - 65)
  else if 97 ≤ n && n ≤ 122 then some (n - 71)
  else if 48 ≤ n && n ≤ 57 then some (n + 4)
  else if n == 43 then some 62
  else if n == 47 then some 63
  else none

/-- The values of symbols, none of which may be padding. -/
def values : Nat → List UInt8 → Except Fault (List Nat)
  | _, [] => .ok []
  | k, b :: rest =>
    match value? b with
    | some v => (values (k + 1) rest).map (v :: ·)
    | none => .error (.invalidSymbol b k)

/-- The bytes of values, six bits each; bits that fill no byte are left out. -/
def pack : List Nat → List UInt8
  | a :: b :: c :: d :: rest =>
    UInt8.ofNat (a * 4 + b / 16) :: UInt8.ofNat (b % 16 * 16 + c / 4) ::
      UInt8.ofNat (c % 4 * 64 + d) :: pack rest
  | [a, b, c] => [UInt8.ofNat (a * 4 + b / 16), UInt8.ofNat (b % 16 * 16 + c / 4)]
  | [a, b] => [UInt8.ofNat (a * 4 + b / 16)]
  | _ => []

/-- Whether the bits that fill no byte are zero. -/
def restIsZero : List Nat → Bool
  | [_, b] => b % 16 == 0
  | [_, _, c] => c % 4 == 0
  | _ => true

/-- The values of the last group, which begins at an offset. -/
def lastGroup (k : Nat) (group : List UInt8) : Except Fault (List Nat) := do
  let symbols := group.takeWhile (· != pad)
  let after := group.drop symbols.length
  let vs ← values k symbols
  if !after.isEmpty && symbols.length < 2 then .error (.invalidSymbol pad (k + symbols.length))
  else if after.any (· != pad) then .error (.invalidSymbol pad (k + symbols.length))
  else if !group.isEmpty && symbols.length < 2 then .error (.invalidLength (k + symbols.length))
  else if group.length % 4 != 0 then .error .invalidPadding
  else if restIsZero vs then .ok vs
  else .error (.invalidLastSymbol (symbols.getLast?.getD 0) (k + symbols.length - 1))

/-- The bytes that a text stands for. -/
def decode (cs : List UInt8) : Except Fault (List UInt8) := do
  let extra := cs.length % 4
  let k := cs.length - (if extra = 0 then 4 else extra)
  match extra, cs.getLast? with
  | 1, some b =>
    if b != pad && (value? b).isNone then throw (.invalidSymbol b (cs.length - 1))
  | _, _ => pure ()
  let front ← values 0 (cs.take k)
  let back ← lastGroup k (cs.drop k)
  return pack front ++ pack back

end ClusterAgent.Base64
