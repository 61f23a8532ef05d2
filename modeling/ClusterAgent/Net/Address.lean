/-
Network addresses.

* `IpAddress.parse?`, `SocketAddress.parse?` — read an address, alone or with a
  port;
* `IpAddress.text`, `SocketAddress.text` — write it in its one normal form: the
  longest run of zero groups is left out, the first of several, and an address
  that stands for one of version 4 ends in that.

Design notes: an address of version 6 is its eight groups.  Reading one goes
over the groups before the gap and, if they are fewer than eight, over those
after it; the last two groups may be written as an address of version 4.
-/
import ClusterAgent.Decimal.Numeral

namespace ClusterAgent

/-- An address of version 4 or of version 6. -/
inductive IpAddress where
  | v4 (a b c d : UInt8)
  /-- Eight groups of 16 bits. -/
  | v6 (groups : Vector UInt16 8)
deriving DecidableEq

/-- An address with a port, and for version 6 the number of an interface. -/
structure SocketAddress where
  ip : IpAddress
  scope : UInt32
  port : UInt16
deriving DecidableEq

namespace IpAddress

/-- The address that this machine answers to itself on. -/
def loopback : IpAddress := .v4 127 0 0 1

/-! ### Reading -/

/-- A number of at most `width` digits in a base, and what follows it. -/
def readNumber (base width : Nat) (cs : List Char) : Option (Nat × List Char) :=
  let isDigit (c : Char) : Bool :=
    c.isDigit || (base == 16 && ('a' ≤ c.toLower && c.toLower ≤ 'f'))
  let value (c : Char) : Nat :=
    if c.isDigit then c.toNat - '0'.toNat else c.toLower.toNat - 'a'.toNat + 10
  let digits := cs.takeWhile isDigit
  if digits.isEmpty || width < digits.length then none
  else some (digits.foldl (fun n c => base * n + value c) 0, cs.drop digits.length)

/-- One part of an address of version 4: no zero in front of other digits. -/
def readOctet (cs : List Char) : Option (UInt8 × List Char) :=
  match readNumber 10 3 cs with
  | some (n, rest) =>
    if n ≤ 255 && (cs.head? != some '0' || cs.length == rest.length + 1) then
      some (UInt8.ofNat n, rest)
    else none
  | none => none

/-- Drop one character that must be there. -/
def expect (c : Char) : List Char → Option (List Char)
  | d :: rest => if d = c then some rest else none
  | [] => none

/-- Read an address of version 4 and leave what follows. -/
def readV4 (cs : List Char) : Option (IpAddress × List Char) := do
  let (a, cs) ← readOctet cs
  let (b, cs) ← readOctet (← expect '.' cs)
  let (c, cs) ← readOctet (← expect '.' cs)
  let (d, cs) ← readOctet (← expect '.' cs)
  return (.v4 a b c d, cs)

/-- The two groups that an address of version 4 takes up. -/
def groupsOfV4 : IpAddress → List UInt16
  | .v4 a b c d => [a.toUInt16 * 256 + b.toUInt16, c.toUInt16 * 256 + d.toUInt16]
  | .v6 _ => []

/-- Read at most `limit` groups; tells whether they end in an address of version 4. -/
def readGroups : Nat → Bool → List Char → List UInt16 × Bool × List Char
  | 0, _, cs => ([], false, cs)
  | limit + 1, first, cs =>
    let start := if first then some cs else expect ':' cs
    let embedded := if limit = 0 then none else start.bind readV4
    match embedded with
    | some (address, rest) => (groupsOfV4 address, true, rest)
    | none =>
      match start.bind (readNumber 16 4) with
      | some (n, rest) =>
        let (groups, embedded, rest) := readGroups limit false rest
        (UInt16.ofNat n :: groups, embedded, rest)
      | none => ([], false, cs)

/-- Eight groups, the missing ones being zeros between the two parts. -/
def joinGroups (head tail : List UInt16) : IpAddress :=
  let groups := head ++ List.replicate (8 - head.length - tail.length) 0 ++ tail
  .v6 (Vector.ofFn fun i => groups[i.val]?.getD 0)

/-- Read an address of version 6 and leave what follows. -/
def readV6 (cs : List Char) : Option (IpAddress × List Char) :=
  let (head, embedded, rest) := readGroups 8 true cs
  if head.length = 8 then some (joinGroups head [], rest)
  else if embedded then none
  else do
    let rest ← expect ':' (← expect ':' rest)
    let (tail, _, rest) := readGroups (7 - head.length) true rest
    return (joinGroups head tail, rest)

/-- Read an address. -/
def parse? (s : String) : Option IpAddress :=
  match readV4 s.toList with
  | some (a, []) => some a
  | _ =>
    match readV6 s.toList with
    | some (a, []) => some a
    | _ => none

/-! ### Writing -/

/-- The first of the longest runs of zeros: where it starts and its length. -/
def longestZeros (groups : List UInt16) : Nat × Nat :=
  let runAt (k : Nat) : Nat := ((groups.drop k).takeWhile (· == 0)).length
  (List.range groups.length).foldl (fun best k => if best.2 < runAt k then (k, runAt k) else best)
    (0, 0)

/-- Groups in hexadecimal, separated by colons. -/
def groupsText (groups : List UInt16) : String :=
  ":".intercalate (groups.map fun g => String.ofList (Nat.toDigits 16 g.toNat))

/-- The text of an address. -/
def text : IpAddress → String
  | .v4 a b c d =>
    ".".intercalate [toString a.toNat, toString b.toNat, toString c.toNat, toString d.toNat]
  | .v6 groups =>
    let gs := groups.toList
    if gs.take 6 = [0, 0, 0, 0, 0, 0xffff] then
      let byte (k : Nat) : String :=
        let g := (gs[6 + k / 2]?.getD 0).toNat
        toString (if k % 2 = 0 then g / 256 else g % 256)
      "::ffff:" ++ ".".intercalate [byte 0, byte 1, byte 2, byte 3]
    else
      let (start, length) := longestZeros gs
      if length < 2 then groupsText gs
      else groupsText (gs.take start) ++ "::" ++ groupsText (gs.drop (start + length))

end IpAddress

namespace SocketAddress

/-- Read a port, which ends the text. -/
def readPort (cs : List Char) : Option UInt16 := do
  let digits ← IpAddress.expect ':' cs
  if digits.isEmpty || digits.any (! ·.isDigit) then none
  else if Decimal.digitsValue digits ≤ 65535 then some (UInt16.ofNat (Decimal.digitsValue digits))
  else none

/-- Read the number of an interface, if there is one. -/
def readScope (cs : List Char) : Option (UInt32 × List Char) :=
  match cs with
  | '%' :: rest => do
    let digits := rest.takeWhile Char.isDigit
    if digits.isEmpty || UInt32.size ≤ Decimal.digitsValue digits then none
    else some (UInt32.ofNat (Decimal.digitsValue digits), rest.drop digits.length)
  | _ => some (0, cs)

/-- Read an address with a port. -/
def parse? (s : String) : Option SocketAddress :=
  match s.toList with
  | '[' :: cs => do
    let (ip, cs) ← IpAddress.readV6 cs
    let (scope, cs) ← readScope cs
    let port ← readPort (← IpAddress.expect ']' cs)
    return ⟨ip, scope, port⟩
  | cs => do
    let (ip, cs) ← IpAddress.readV4 cs
    return ⟨ip, 0, ← readPort cs⟩

/-- The text of an address with its port. -/
def text (a : SocketAddress) : String :=
  match a.ip with
  | .v4 .. => a.ip.text ++ ":" ++ toString a.port.toNat
  | .v6 _ =>
    let scope := if a.scope = 0 then "" else "%" ++ toString a.scope.toNat
    "[" ++ a.ip.text ++ scope ++ "]:" ++ toString a.port.toNat

end SocketAddress

end ClusterAgent
