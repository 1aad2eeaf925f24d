import ProxyControl.Relay.Network
import ProxyControl.Text.Number
import ProxyControl.Text.Pieces

/-!
# Machines without a network

A machine that no network reaches still finds a host that is written as an address, in the older
forms too: as one to four numbers with points between them, of which the last one takes up all the
octets that are left, or as an address of the sixth version with the number or the name of an
interface. It knows itself by name. Any other host that could have a name has to be asked for in
vain, and one that could not have a name has no address.

Its only interface is the one that leads back to itself, and that one is down. So no connection is
made, and it takes any address of the fourth version for its own, but of the sixth only the one that
stands for all. The ports below 1024 need a right that the program does not have.

## Main definitions

* `Address.readOlder?`, `HostAddress.readScoped?`: addresses in the older forms
* `isHostName`: the hosts that could have a name
* `Network.isolated`: a machine that no network reaches
-/

set_option autoImplicit false

namespace ProxyControl

open Text

namespace Address

/-- The number that digits of a base write, if there are digits and nothing else. -/
def readAllDigits? (base : Nat) (isDigit : Char → Bool) (cs : List Char) : Option Nat :=
  if cs ≠ [] ∧ cs.all isDigit = true then some (valueInBase base cs) else none

/-- A number of an older form: hexadecimal after a zero and an x, octal after a zero, and decimal
otherwise. -/
def readOlderNumber? : List Char → Option Nat
  | '0' :: c :: cs =>
    if c = 'x' ∨ c = 'X' then readAllDigits? 16 isHexadecimal cs
    else readAllDigits? 8 (fun c => '0' ≤ c && c ≤ '7') (c :: cs)
  | cs => readAllDigits? 10 isDecimal cs

/-- So many octets of a number, the highest first. -/
def octetsOf : Nat → Nat → List Nat
  | 0, _ => []
  | count + 1, n => octetsOf count (n / 256) ++ [n % 256]

/-- So many octets out of numbers, of which each but the last is one octet. -/
def fillOctets? : Nat → List Nat → Option (List Nat)
  | count + 1, [n] =>
    if n < Nat.pow 256 (count + 1) then some (octetsOf (count + 1) n) else none
  | count + 1, n :: rest =>
    if n < 256 then (fillOctets? count rest).map fun octets => n :: octets else none
  | _, _ => none

/-- An address of the fourth version in an older form. -/
def readOlder? (host : String) : Option Address := do
  let numbers ← (splitWhere (· = '.') host.toList).mapM readOlderNumber?
  return .four (← fillOctets? 4 numbers)

end Address

/-! ## Hosts -/

/-- The number of an interface that is named after an address. Only where an address means something
else on each link does a name stand for an interface. -/
def interfaceNumber? (groups : List Nat) (name : List Char) : Option Nat :=
  if (Address.isLinkLocal groups || Address.isNearMulticast groups) && name = ['l', 'o'] then some 1
  else (Address.readAllDigits? 10 isDecimal name).filter (· ≤ 4294967295)

/-- An address of the sixth version before an interface. -/
def HostAddress.readScoped? (host : String) : Option HostAddress :=
  match host.toList.dropWhile (· ≠ '%') with
  | '%' :: name => do
    let groups ← Address.readSix (host.toList.takeWhile (· ≠ '%'))
    return ⟨.six groups, ← interfaceNumber? groups name⟩
  | _ => none

/-- Whether a character may stand in the name of a host. -/
def isHostChar (c : Char) : Bool := c.isAlphanum || c = '-' || c = '_' || c = '.'

/-- The parts of a name, without the empty one after a last point. -/
def hostLabels (cs : List Char) : List (List Char) :=
  splitWhere (· = '.') (if cs.getLast? = some '.' then cs.dropLast else cs)

/-- The most characters in a part of a name. -/
def maxHostLabelSize : Nat := 63

/-- The most characters in a name, with one more for each part. -/
def maxHostSize : Nat := 254

/-- Whether a host could have a name: its parts have one to 63 characters each. A point alone is the
name above all. -/
def isHostName (host : String) : Bool :=
  let cs := host.toList
  let labels := hostLabels cs
  cs.all isHostChar && cs.head? ≠ some '-' &&
    (cs = ['.'] || labels.all fun l => l ≠ [] && l.length ≤ maxHostLabelSize) &&
    labels.foldl (fun n l => n + l.length + 1) 0 ≤ maxHostSize

namespace Network

/-- Why a host has no address. -/
def lookupError (host : String) : IoError :=
  .other ("failed to lookup address information: " ++
    if isHostName host then "Temporary failure in name resolution"
    else "Name or service not known")

/-- The addresses of a host that no network is needed for. -/
def isolatedLookup (host : String) : Except IoError (List HostAddress) :=
  match (Address.read? host).or (Address.readOlder? host) with
  | some a => .ok [⟨a, 0⟩]
  | none =>
    match HostAddress.readScoped? host with
    | some a => .ok [a]
    | none =>
      if asciiLower host = "localhost" then .ok [⟨.four [127, 0, 0, 1], 0⟩]
      else .error (lookupError host)

/-- Why no connection to an address can be made. -/
def isolatedConnectError (a : HostAddress) : IoError :=
  match a.address with
  | .four _ => .networkUnreachable
  | .six groups =>
    if Address.holdsFour groups || Address.isMulticast groups then .networkUnreachable
    else if Address.isLinkLocal groups && a.interface = 0 then .invalidArgument
    else .addressUnavailable

/-- Whether a port needs a right that the program does not have. -/
def isReserved (port : Nat) : Bool := 0 < port && port < 1024

/-- A port of an address opened for others. -/
def isolatedListen (a : HostAddress) (port : Nat) : Except IoError Unit :=
  match a.address with
  | .four _ => if isReserved port then .error .permissionDenied else .ok ()
  | .six groups =>
    if Address.isMulticast groups then .error .invalidArgument
    else if isReserved port then .error .permissionDenied
    else if Address.holdsFour groups || groups.all (· = 0) then .ok ()
    else if !Address.isLinkLocal groups || a.interface = 1 then .error .addressUnavailable
    else if a.interface = 0 then .error .invalidArgument
    else .error .noDevice

/-- A machine that no network reaches. -/
def isolated : Network where
  lookup := isolatedLookup
  connect a _ := .error (isolatedConnectError a)
  listen := isolatedListen

end Network

end ProxyControl
