import ProxyControl.Error
import ProxyControl.Relay.Network
import ProxyControl.Text.Number
import ProxyControl.Text.Pieces

/-!
# Where the relay listens

The relay listens on a host and a port, which are written with a colon between them. The host can be
an address of the sixth version in brackets, with the number of an interface after a percent sign;
then nothing but digits makes up the port. Any other host is looked up, whatever colons it holds.

## Main definitions

* `readSocket?`: the address and the port that some text is
* `listenAddresses`: the addresses and the port to listen on
* `openRelay`: the relay opened
-/

set_option autoImplicit false

namespace ProxyControl

open Text

/-- The number up to a largest one that nothing but digits write. -/
def readDigitsUpTo? (largest : Nat) (cs : List Char) : Option Nat :=
  (readNat? cs).filter (· ≤ largest)

/-- An address of the sixth version, with the number of an interface or without one. -/
def readSixWithInterface? (cs : List Char) : Option HostAddress := do
  let groups ← Address.readSix (cs.takeWhile (· ≠ '%'))
  match cs.dropWhile (· ≠ '%') with
  | '%' :: digits => return ⟨.six groups, ← readDigitsUpTo? 4294967295 digits⟩
  | _ => return ⟨.six groups, 0⟩

/-- The address and the port that some text is. -/
def readSocket? (cs : List Char) : Option (HostAddress × Nat) :=
  match cs with
  | '[' :: rest =>
    match rest.dropWhile (· ≠ ']') with
    | ']' :: ':' :: port => do
      let a ← readSixWithInterface? (rest.takeWhile (· ≠ ']'))
      return (a, ← readDigitsUpTo? 65535 port)
    | _ => none
  | _ =>
    match Address.readOctets cs with
    | some (octets, ':' :: port) => do
      return (⟨.four octets, 0⟩, ← readDigitsUpTo? 65535 port)
    | _ => none

/-- The host and the port of some text: the port is what follows the last colon. -/
def splitHost (addr : String) : Except IoError (String × Nat) :=
  let pieces := splitWhere (· = ':') addr.toList
  if pieces.length < 2 then .error (.other "invalid socket address")
  else
    match readUnsigned? 65535 (pieces.getLast?.getD []) with
    | none => .error (.other "invalid port value")
    | some port =>
      .ok (String.ofList (pieces.dropLast.intersperse [':']).flatten, port)

/-- The addresses and the port to listen on. -/
def listenAddresses (n : Network) (addr : String) : Except IoError (List HostAddress × Nat) :=
  match readSocket? addr.toList with
  | some (a, port) => .ok ([a], port)
  | none =>
    (splitHost addr).bind fun (host, port) =>
      (n.lookup host).map fun addresses => (addresses, port)

/-- The relay opened. -/
def openRelay (n : Network) (addr : String) : Except RelayError Unit :=
  match (listenAddresses n addr).bind fun (addresses, port) =>
      firstOk (fun a => n.listen a port) Network.noAddress addresses with
  | .ok () => .ok ()
  | .error e => .error (.listen addr e)

end ProxyControl
