/-
Addresses of resources on the network.

* `Uri.parse` — read a URI: a path, an authority, or a scheme with both;
* `Uri.text` — write it; with a scheme there is always a path;
* `Uri.Fault.message` — the text of each way in which a URI can be wrong.

Design notes: the authority is kept as it was written.  It is checked for its
brackets, colons and signs as a whole and not taken apart.  A fragment is
dropped.
-/
namespace ClusterAgent

/-- What is wrong with a URI. -/
inductive Uri.Fault where
  | tooLong
  | empty
  | invalidCharacter
  | invalidAuthority
  | invalidFormat
  | schemeTooLong
deriving DecidableEq

/-- The text of a fault. -/
def Uri.Fault.message : Uri.Fault → String
  | .tooLong => "uri too long"
  | .empty => "empty string"
  | .invalidCharacter => "invalid uri character"
  | .invalidAuthority => "invalid authority"
  | .invalidFormat => "invalid format"
  | .schemeTooLong => "scheme too long"

/-- A URI without fragment. -/
structure Uri where
  scheme : Option String
  authority : Option String
  /-- The path as written, empty if there is none. -/
  rawPath : String
  query : Option String
deriving DecidableEq

namespace Uri

/-- Whether a character may stand in an authority; a percent sign is judged by
where it stands. -/
def inAuthority (c : Char) : Bool := c.isAlphanum || "!#$&'()*+,-./:;=?@[]_~".toList.contains c

/-- Whether a character may stand in a path. -/
def inPath (c : Char) : Bool :=
  let n := c.toNat
  n == 0x21 || (0x24 ≤ n && n ≤ 0x3b) || n == 0x3d || (0x40 ≤ n && n ≤ 0x5f) ||
    (0x61 ≤ n && n ≤ 0x7a) || n == 0x7c || 0x7e ≤ n || c == '"' || c == '\x7b' || c == '\x7d'

/-- Whether a character may stand in a query. -/
def inQuery (c : Char) : Bool :=
  let n := c.toNat
  n == 0x21 || (0x24 ≤ n && n ≤ 0x3b) || n == 0x3d || 0x3f ≤ n

/-- Whether a character may stand in a scheme. -/
def inScheme (c : Char) : Bool := c.isAlphanum || c == '+' || c == '-' || c == '.'

/-- What has been seen of an authority. -/
structure Scan where
  colons : Nat
  opened : Bool
  closed : Bool
  percent : Bool
  /-- The last character was the sign that ends the user's name. -/
  userEnd : Bool

/-- Go over an authority; the answer is the authority and what follows it. -/
def scanAuthority : Scan → List Char → Except Fault (List Char × List Char)
  | s, [] => finish s []
  | s, c :: rest =>
    if c = '/' ∨ c = '?' ∨ c = '#' then finish s (c :: rest)
    else if c = ':' then
      if 8 ≤ s.colons then .error .invalidAuthority
      else keep c (scanAuthority { s with colons := s.colons + 1, userEnd := false } rest)
    else if c = '[' then
      if s.percent || s.opened then .error .invalidAuthority
      else keep c (scanAuthority { s with opened := true, userEnd := false } rest)
    else if c = ']' then
      if !s.opened || s.closed then .error .invalidAuthority
      else keep c (scanAuthority ⟨0, true, true, false, false⟩ rest)
    else if c = '@' then keep c (scanAuthority ⟨0, s.opened, s.closed, false, true⟩ rest)
    else if c = '%' then keep c (scanAuthority { s with percent := true, userEnd := false } rest)
    else if inAuthority c then keep c (scanAuthority { s with userEnd := false } rest)
    else .error .invalidCharacter
where
  /-- Whether an authority may end as it was seen. -/
  finish (s : Scan) (rest : List Char) : Except Fault (List Char × List Char) :=
    if s.opened != s.closed || 1 < s.colons || s.userEnd || s.percent then .error .invalidAuthority
    else .ok ([], rest)
  /-- Put a character in front of what was kept of the rest. -/
  keep (c : Char) (r : Except Fault (List Char × List Char)) :
      Except Fault (List Char × List Char) :=
    r.map fun (authority, rest) => (c :: authority, rest)

/-- Read an authority, which is not empty. -/
def readAuthority (cs : List Char) : Except Fault (List Char × List Char) :=
  if cs.isEmpty then .error .empty else scanAuthority ⟨0, false, false, false, false⟩ cs

/-- Read a path with its query. -/
def readPath (cs : List Char) : Except Fault (String × Option String) :=
  let path := cs.takeWhile fun c => c != '?' && c != '#'
  if path.any (! inPath ·) then .error .invalidCharacter
  else match cs.dropWhile fun c => c != '?' && c != '#' with
    | '?' :: rest =>
      let query := rest.takeWhile (· != '#')
      if query.any (! inQuery ·) then .error .invalidCharacter
      else .ok (String.ofList path, some (String.ofList query))
    | _ => .ok (String.ofList path, none)

/-- The scheme before `://`, in lower case if it is a common one, and what follows. -/
def readScheme (cs : List Char) : Except Fault (Option (String × List Char)) :=
  let lower := cs.map Char.toLower
  if "http://".toList.isPrefixOf lower then .ok (some ("http", cs.drop 7))
  else if "https://".toList.isPrefixOf lower then .ok (some ("https", cs.drop 8))
  else
    let name := cs.takeWhile inScheme
    match cs.drop name.length with
    | ':' :: '/' :: '/' :: rest =>
      if cs.length ≤ 3 then .ok none
      else if 64 < name.length then .error .schemeTooLong
      else .ok (some (String.ofList name, rest))
    | _ => .ok none

/-- Read a URI that is longer than one character and does not begin with its path. -/
def readFull (cs : List Char) : Except Fault Uri := do
  match ← readScheme cs with
  | none =>
    let (authority, rest) ← readAuthority cs
    if rest.isEmpty then .ok ⟨none, some (String.ofList authority), "", none⟩
    else .error .invalidFormat
  | some (scheme, cs) =>
    let (authority, rest) ← readAuthority cs
    if authority.isEmpty then .error .invalidFormat
    else
      let (path, query) ← readPath rest
      .ok ⟨some scheme, some (String.ofList authority), path, query⟩

/-- Read a URI. -/
def parse (s : String) : Except Fault Uri :=
  if 65534 < s.utf8ByteSize then .error .tooLong
  else match s.toList with
    | [] => .error .empty
    | ['*'] => .ok ⟨none, none, "*", none⟩
    | [c] =>
      if c = '/' then .ok ⟨none, none, "/", none⟩
      else do
        let (authority, rest) ← readAuthority [c]
        if rest.isEmpty then .ok ⟨none, some (String.ofList authority), "", none⟩
        else .error .invalidCharacter
    | '/' :: rest => (readPath ('/' :: rest)).map fun (path, query) => ⟨none, none, path, query⟩
    | cs => readFull cs

/-- The path; none at all only for an authority that stands alone. -/
def path (u : Uri) : String :=
  if u.rawPath = "" && (u.scheme.isSome || u.query.isSome) then "/" else u.rawPath

/-- Write a URI. -/
def text (u : Uri) : String :=
  (u.scheme.map (· ++ "://")).getD "" ++ u.authority.getD "" ++ u.path ++
    (u.query.map ("?" ++ ·)).getD ""

end Uri

end ClusterAgent
