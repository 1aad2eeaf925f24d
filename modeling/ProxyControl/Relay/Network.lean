import ProxyControl.IoError
import ProxyControl.Relay.Address

/-!
# Networks

The relay asks three things of the machine that it runs on: the addresses of a host, a connection to
one of them, and to be reached at one of them. Where a host has several addresses they are tried in
their order, and if none of them will do, the error of the last one counts.

## Main definitions

* `HostAddress`: an address and how it is reached
* `Network`: what a machine can do
* `firstOk`: the first of several attempts that does not fail
* `Network.addresses`, `Network.reach`: the addresses of a host, and a connection to it
-/

set_option autoImplicit false

namespace ProxyControl

/-- An address, with the number of the interface that leads to it, or zero where none is named. -/
structure HostAddress where
  address : Address
  /-- The number of the interface. -/
  interface : Nat
  deriving DecidableEq, Repr

/-- A connection: what comes back for the pieces that are sent, until the other side closes it. -/
abbrev Exchange := List (List UInt8) → Except IoError ByteArray

/-- What a machine can do. -/
structure Network where
  /-- The addresses of a host. -/
  lookup : String → Except IoError (List HostAddress)
  /-- A connection to a port of an address. -/
  connect : HostAddress → Nat → Except IoError Exchange
  /-- A port of an address opened for others. -/
  listen : HostAddress → Nat → Except IoError Unit

/-- The first of several attempts that does not fail. If all fail the error of the last one counts,
and `e` if there are none. -/
def firstOk {α β : Type} (attempt : α → Except IoError β) : IoError → List α → Except IoError β
  | e, [] => .error e
  | _, a :: rest =>
    match attempt a with
    | .ok b => .ok b
    | .error e => firstOk attempt e rest

namespace Network

/-- A host has no address at all. -/
def noAddress : IoError := .other "could not resolve to any address"

/-- The addresses of a host. A host that is written as an address is not looked up. -/
def addresses (n : Network) (host : String) : Except IoError (List HostAddress) :=
  match Address.read? host with
  | some a => .ok [⟨a, 0⟩]
  | none => n.lookup host

/-- A connection to a port of a host. -/
def reach (n : Network) (host : String) (port : Nat) : Except IoError Exchange :=
  (n.addresses host).bind fun addresses => firstOk (fun a => n.connect a port) noAddress addresses

end Network

end ProxyControl
