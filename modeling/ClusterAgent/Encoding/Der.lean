/-
The outline of certificates and keys in their binary form.

A value is a tag, a length and a content.  `Der.isCertificate` and `Der.isKey`
look at the outermost values only: enough to tell a certificate or a key from
bytes that are neither.
-/
namespace ClusterAgent.Der

/-- Read the length of a value. -/
def readLength : List UInt8 → Option (Nat × List UInt8)
  | [] => none
  | b :: rest =>
    if b < 128 then some (b.toNat, rest)
    else
      let count := b.toNat - 128
      if count = 0 || 4 < count || rest.length < count then none
      else some ((rest.take count).foldl (fun n c => 256 * n + c.toNat) 0, rest.drop count)

/-- Read one value: its tag, its content and what follows. -/
def readValue : List UInt8 → Option (UInt8 × List UInt8 × List UInt8)
  | [] => none
  | tag :: rest => do
    let (n, rest) ← readLength rest
    if rest.length < n then none else some (tag, rest.take n, rest.drop n)

/-- The tags of values that follow each other and fill the bytes, at most that many. -/
def tags : Nat → List UInt8 → Option (List UInt8)
  | _, [] => some []
  | 0, _ => none
  | n + 1, bytes => do
    let (tag, _, rest) ← readValue bytes
    return tag :: (← tags n rest)

/-- The tag of a sequence. -/
def sequence : UInt8 := 0x30

/-- The tags inside a sequence that fills the bytes. -/
def inside (bytes : List UInt8) : Option (List UInt8) :=
  match readValue bytes with
  | some (tag, content, []) => if tag = sequence then tags 16 content else none
  | _ => none

/-- A certificate holds its data, the kind of its signature and the signature. -/
def isCertificate (bytes : List UInt8) : Bool := inside bytes == some [sequence, sequence, 0x03]

/-- A key begins with the number of its version. -/
def isKey (bytes : List UInt8) : Bool :=
  match inside bytes with
  | some (0x02 :: _ :: _) => true
  | _ => false

end ClusterAgent.Der
