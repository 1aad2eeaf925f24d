import ProxyControl.Error
import ProxyControl.Text.Blank
import ProxyControl.Text.Number

/-!
# Relay targets

A relay request names its target by comma-separated fields: a host and a port to connect to, or a
host, perhaps a port, and the marker that asks for the host's address only.

## Main definitions

* `RelayTarget`: what a request asks for
* `RelayTarget.parse`: the target that a descriptor names
-/

set_option autoImplicit false

namespace ProxyControl

open Text

/-- What a relay request asks for. -/
inductive RelayTarget where
  /-- The address of the host. -/
  | resolve (host : String)
  /-- A connection to the host and the port. -/
  | connect (host : String) (port : Nat)
  deriving DecidableEq, Repr

namespace RelayTarget

/-- Whether a field is the marker that asks for an address, in any case. -/
def isMarker (field : List Char) : Bool := field.map Char.toLower == "dns".toList

/-- The fields of a descriptor, without the blanks around them. -/
def fields (raw : String) : List (List Char) :=
  (splitWhere (· = ',') raw.toList).map trimChars

/-- The port that a field gives. -/
def readPort? (field : List Char) : Option Nat :=
  (readUnsigned? 65535 field).filter (· ≠ 0)

/-- The target that a descriptor names. -/
def parse (raw : String) : Except RelayError RelayTarget :=
  match fields raw with
  | [host, second] =>
    if host = [] then .error (.malformedTarget raw)
    else if isMarker second then .ok (.resolve (String.ofList host))
    else match readPort? second with
      | some port => .ok (.connect (String.ofList host) port)
      | none => .error (.invalidPort (String.ofList second))
  | [host, _, third] =>
    if host ≠ [] ∧ isMarker third = true then .ok (.resolve (String.ofList host))
    else .error (.malformedTarget raw)
  | _ => .error (.malformedTarget raw)

end RelayTarget

end ProxyControl
