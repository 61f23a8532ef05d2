/-
Armoured sections: binary data written as text between a begin and an end line.

* `Pem.parseAll` — every section of a text, each with its tag and its bytes;
* `Pem.Fault.message` — the text of a fault.

Design notes: what stands between sections is skipped.  A section may begin with
headers, which an empty line ends.  The first section that is at fault ends the
reading.
-/
import ClusterAgent.Encoding.Base64
import ClusterAgent.Text.Blank
import ClusterAgent.Text.Quoted

namespace ClusterAgent.Pem

/-- One section. -/
structure Block where
  tag : String
  contents : List UInt8
deriving DecidableEq

/-- What is wrong with a section. -/
inductive Fault where
  | beginMissing
  | endMissing
  | mismatch (opening closing : String)
  | invalidData (fault : Base64.Fault)
  | invalidHeader (line : String)
  | notText
deriving DecidableEq

/-- The text of a fault. -/
def Fault.message : Fault → String
  | .beginMissing => "missing BEGIN tag"
  | .endMissing => "missing END tag"
  | .mismatch a b =>
    "mismatching BEGIN (" ++ Text.quote a ++ ") and END (" ++ Text.quote b ++ ") tags"
  | .invalidData fault => "invalid data: " ++ fault.message
  | .invalidHeader line => "invalid header: " ++ line
  | .notText => "invalid utf-8 value"

/-- Cut at the first occurrence of a mark: what stands before and what follows it. -/
def cutAt (mark : List UInt8) : List UInt8 → Option (List UInt8 × List UInt8)
  | [] => if mark.isEmpty then some ([], []) else none
  | b :: rest =>
    if mark.isPrefixOf (b :: rest) then some ([], (b :: rest).drop mark.length)
    else (cutAt mark rest).map fun (before, after) => (b :: before, after)

/-- The bytes of a mark. -/
def bytesOf (s : String) : List UInt8 := s.toUTF8.toList

/-- Whether a byte is a space, a tab or ends a line. -/
def isSpace (b : UInt8) : Bool := b == 32 || b == 9 || b == 10 || b == 13

/-- A section as it is written. -/
structure Raw where
  opening : List UInt8
  headers : List UInt8
  body : List UInt8
  closing : List UInt8

/-- Cut the first section out of a text. -/
def cutSection (bytes : List UInt8) : Option (Raw × List UInt8) := do
  let (_, rest) ← cutAt (bytesOf "-----BEGIN ") bytes
  let (opening, rest) ← cutAt (bytesOf "-----") rest
  let (body, rest) ← cutAt (bytesOf "-----END ") (rest.dropWhile isSpace)
  let (closing, rest) ← cutAt (bytesOf "-----") rest
  let (headers, body) :=
    ((cutAt [10, 10] body).or (cutAt [13, 10, 13, 10] body)).getD ([], body)
  return (⟨opening, headers, body, closing⟩, rest.dropWhile isSpace)

/-- Text made of bytes. -/
def textOf (bytes : List UInt8) : Except Fault String :=
  match String.fromUTF8? (ByteArray.mk bytes.toArray) with
  | some s => .ok s
  | none => .error .notText

/-- Read a section. -/
def Raw.read (r : Raw) : Except Fault Block := do
  let tag ← textOf r.opening
  if tag = "" then throw .beginMissing
  let closing ← textOf r.closing
  if closing = "" then throw .endMissing
  if tag ≠ closing then throw (.mismatch tag closing)
  let body ← textOf r.body
  let symbols := body.toList.filter (! Text.isBlank ·)
  let contents ← (Base64.decode (bytesOf (String.ofList symbols))).mapError .invalidData
  let headers ← textOf r.headers
  match (headers.splitOn "\n").find? fun line => line != "" && !line.toList.contains ':' with
  | some line => throw (.invalidHeader line)
  | none => return ⟨tag, contents⟩

/-- Read sections, at most that many. -/
def readSections : Nat → List UInt8 → Except Fault (List Block)
  | 0, _ => .ok []
  | n + 1, bytes =>
    match cutSection bytes with
    | none => .ok []
    | some (raw, rest) => do
      let block ← raw.read
      return block :: (← readSections n rest)

/-- Every section of a text. -/
def parseAll (bytes : List UInt8) : Except Fault (List Block) := readSections bytes.length bytes

/-- The certificates of a text. -/
def certificates (bytes : List UInt8) : Except Fault (List (List UInt8)) :=
  (parseAll bytes).map fun blocks => (blocks.filter (·.tag == "CERTIFICATE")).map (·.contents)

end ClusterAgent.Pem
