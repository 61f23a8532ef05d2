/-
Text from the bytes of a file.

A mark at the beginning tells the encoding: 16-bit units in either order, or
bytes; without a mark it is bytes.

* `Unicode.decode` — the text of the bytes, or the encoding that they break.
-/
namespace ClusterAgent.Unicode

/-- Why bytes are no text. -/
inductive Fault where
  | littleEndian
  | bigEndian
  | marked
  | plain
  /-- A last 16-bit unit of one byte, which is fatal. -/
  | halfUnit
deriving DecidableEq

/-- The text of a fault. -/
def Fault.message : Fault → String
  | .littleEndian => "Invalid UTF-16 LE"
  | .bigEndian => "Invalid UTF-16 BE"
  | .marked => "Invalid UTF-8 BOM"
  | .plain => "Invalid UTF-8"
  | .halfUnit => "index out of bounds: the len is 1 but the index is 1"

/-- The 16-bit units of bytes, the high byte first or last; none if one is left over. -/
def units (highFirst : Bool) : List UInt8 → Option (List Nat)
  | [] => some []
  | [_] => none
  | a :: b :: rest =>
    let unit := if highFirst then a.toNat * 256 + b.toNat else b.toNat * 256 + a.toNat
    (units highFirst rest).map (unit :: ·)

/-- The characters of 16-bit units; none if a surrogate stands alone. -/
def characters : List Nat → Option (List Char)
  | [] => some []
  | u :: rest =>
    if u < 0xd800 || 0xe000 ≤ u then (characters rest).map (Char.ofNat u :: ·)
    else match rest with
      | v :: rest =>
        if u < 0xdc00 && 0xdc00 ≤ v && v < 0xe000 then
          (characters rest).map (Char.ofNat (0x10000 + (u - 0xd800) * 0x400 + (v - 0xdc00)) :: ·)
        else none
      | [] => none

/-- Text of 16-bit units. -/
def decodeUnits (highFirst : Bool) (fault : Fault) (bytes : List UInt8) : Except Fault String :=
  match units highFirst bytes with
  | none => .error .halfUnit
  | some us =>
    match characters us with
    | some cs => .ok (String.ofList cs)
    | none => .error fault

/-- Text of bytes. -/
def decodeBytes (fault : Fault) (bytes : List UInt8) : Except Fault String :=
  match String.fromUTF8? (ByteArray.mk bytes.toArray) with
  | some s => .ok s
  | none => .error fault

/-- The text of a file. -/
def decode : List UInt8 → Except Fault String
  | 0xff :: 0xfe :: rest => decodeUnits false .littleEndian rest
  | 0xfe :: 0xff :: rest => decodeUnits true .bigEndian rest
  | 0xef :: 0xbb :: 0xbf :: rest => decodeBytes .marked rest
  | bytes => decodeBytes .plain bytes

end ClusterAgent.Unicode
