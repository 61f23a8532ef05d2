/-
Binding a host and a port to listen on.

* `BindingFault` — the usual reasons why nothing can be bound;
* `Binder` — what answers to a host and a port;
* `Binder.offline` — binding on a machine that has no network.

Design notes: without a network there are no names to look up but the machine's
own.  Any address of version 4 can be bound, and of version 6 only the one that
stands for all.
-/
import ClusterAgent.Environment
import ClusterAgent.Net.Address

namespace ClusterAgent

/-- Why a host and a port cannot be bound. -/
inductive BindingFault where
  | taken
  /-- The machine does not have the address. -/
  | foreign
  | unknownHost
  | denied
deriving DecidableEq

/-- The text of a fault. -/
def BindingFault.message : BindingFault → String
  | .taken => "Address already in use (os error 98)"
  | .foreign => "Cannot assign requested address (os error 99)"
  | .unknownHost => "failed to lookup address information: Temporary failure in name resolution"
  | .denied => "Permission denied (os error 13)"

/-- A fault as a cause of others. -/
def BindingFault.asCause (f : BindingFault) : Cause := Cause.of f.message

/-- Binds a host and a port. -/
abbrev Binder := String → UInt16 → Except Cause SocketAddress

/-- Whether an address stands for all addresses of its version. -/
def IpAddress.isUnspecified : IpAddress → Bool
  | .v4 a b c d => a = 0 && b = 0 && c = 0 && d = 0
  | .v6 groups => groups.toList.all (· = 0)

/-- Whether an address is the machine's own. -/
def IpAddress.isLoopback : IpAddress → Bool
  | .v4 a _ _ _ => a = 127
  | .v6 groups => groups.toList = [0, 0, 0, 0, 0, 0, 0, 1]

namespace Binder

/-- The address that a host stands for where there is no network. -/
def ownAddress? (host : String) : Option IpAddress :=
  if host = "localhost" then some IpAddress.loopback else IpAddress.parse? host

/-- Binding without a network. Some addresses are taken, and one port is given out
if any will do. -/
def offline (taken : List SocketAddress) (spare : UInt16) : Binder := fun host port =>
  match ownAddress? host with
  | none => .error BindingFault.unknownHost.asCause
  | some ip =>
    let address : SocketAddress := ⟨ip, 0, if port = 0 then spare else port⟩
    let own := match ip with
      | .v4 .. => true
      | .v6 _ => ip.isUnspecified
    if taken.contains address then .error BindingFault.taken.asCause
    else if own then .ok address
    else .error BindingFault.foreign.asCause

end Binder

end ClusterAgent
