/-
Addresses to listen on.

`BindAddress.parse?` reads `:port` (every interface), `host:port` and
`[v6]:port`; `BindAddress.text` writes the form that fits the host.

Design notes: the port stands after the last colon.  A host name is taken as it
is and resolved when the listener binds; it may hold no white space, and a colon
only inside brackets, where there must be one.
-/
import ClusterAgent.Decimal.Numeral
import ClusterAgent.Text.Blank

namespace ClusterAgent

/-- Where to listen: a host, absent for every interface, and a port. -/
structure BindAddress where
  host : Option String
  port : UInt16
deriving DecidableEq

namespace BindAddress

open ClusterAgent.Decimal ClusterAgent.Text

/-- Cut at the last colon: what stands before it and what stands after. -/
def cutLast : List Char → Option (List Char × List Char)
  | [] => none
  | c :: rest =>
    match cutLast rest with
    | some (before, after) => some (c :: before, after)
    | none => if c = ':' then some ([], rest) else none

/-- Read a port number. -/
def parsePort? (cs : List Char) : Option UInt16 :=
  match readNatural 65535 cs with
  | .ok n => some (UInt16.ofNat n)
  | .error _ => none

/-- The text between brackets around the whole. -/
def unbracket? : List Char → Option (List Char)
  | '[' :: inner => if inner.getLast? = some ']' then some inner.dropLast else none
  | _ => none

/-- Read a host: an address between brackets if it holds a colon, else a name. -/
def parseHost? (cs : List Char) : Option (List Char) :=
  let host := match unbracket? cs with
    | some v6 => if ':' ∈ v6 then some v6 else none
    | none => if ':' ∈ cs ∨ '[' ∈ cs ∨ ']' ∈ cs then none else some cs
  host.filter fun h => !h.any isBlank

/-- Read an address. -/
def parse? (raw : String) : Option BindAddress := do
  let (host, port) ← cutLast raw.toList
  let port ← parsePort? port
  if host.isEmpty then some ⟨none, port⟩
  else (parseHost? host).map fun h => ⟨some (String.ofList h), port⟩

/-- Write an address; a host with a colon goes between brackets. -/
def text (a : BindAddress) : String :=
  match a.host with
  | none => ":" ++ toString a.port.toNat
  | some host =>
    if ':' ∈ host.toList then "[" ++ host ++ "]:" ++ toString a.port.toNat
    else host ++ ":" ++ toString a.port.toNat

end BindAddress

end ClusterAgent
