import ProxyControl.Relay.Network
import ProxyControl.Relay.Target
import ProxyControl.Text.Base64

/-!
# Relay requests

A relay request names its target in a header; its path and its method mean nothing. The answer is
the address of the host, or what the target sends back until it closes the connection. A request
whose body is too long, or whose target is missing or malformed, is refused before any connection
is made, and an error of the network is answered with its words and its number.

## Main definitions

* `RelayRequest`, `RelayReply`: a request and its answer
* `RelayRequest.answer`: the answer to a request
-/

set_option autoImplicit false

namespace ProxyControl

open Text

/-- A relay request. -/
structure RelayRequest where
  /-- The names of the headers with their values, in order. -/
  headers : List (String × List UInt8)
  body : ByteArray

/-- The answer to a relay request. -/
structure RelayReply where
  /-- The status code. -/
  status : Nat
  /-- The header that tells an address. -/
  etag : Option String
  body : ByteArray

namespace RelayRequest

/-- The name of the header that names the target, in small letters. -/
def targetHeader : String := "x-forwarded-url"

/-- The longest body that is taken. -/
def maxBodySize : Nat := 2 * 1024 * 1024

/-- An answer without an address. -/
def plain (status : Nat) (text : String) : RelayReply := ⟨status, none, text.toUTF8⟩

/-- Whether a byte may stand in a header that is text. -/
def isHeaderByte (b : UInt8) : Bool := b = 0x09 || (0x20 ≤ b && b ≤ 0x7E)

/-- The text of the first header that names a target. -/
def descriptor? (r : RelayRequest) : Option String :=
  match r.headers.find? fun h => asciiLower h.1 = targetHeader with
  | none => none
  | some (_, value) =>
    if value.all isHeaderByte then
      some (String.ofList (value.map fun b => Char.ofNat b.toNat))
    else none

/-- The body of an answer about an error of the network: its words, and its number once. -/
def errorBody (e : IoError) : String :=
  let message := e.message.toList
  let suffix := (IoError.numberSuffix e.number).toList
  let words := if suffix.isSuffixOf message then message.take (message.length - suffix.length)
    else message
  String.ofList words ++ " (" ++ toString e.number ++ ")"

/-- The address of a host among several: the first of the fourth version, or else the first. -/
def preferred? (addresses : List HostAddress) : Option Address :=
  ((addresses.find? fun a => a.address.isFour).or addresses.head?).map (·.address)

/-- The address of a host. -/
def resolve (n : Network) (host : String) : Except IoError Address :=
  (n.addresses host).bind fun addresses =>
    match preferred? addresses with
    | some a => .ok a
    | none => .error (.other ("no address found for " ++ host))

/-- The lines of a body, each with the byte that ends it. -/
def pieces (body : ByteArray) : List (List UInt8) :=
  (segments 10 body.toList).map fun s => if s.2 then s.1 ++ [10] else s.1

/-- The answer about a target. -/
def answerTarget (n : Network) (body : ByteArray) : RelayTarget → RelayReply
  | .resolve host =>
    match resolve n host with
    | .ok a =>
      ⟨200, some (String.ofList (base64 a.render.toUTF8.toList)), ByteArray.empty⟩
    | .error e => plain 502 (errorBody e)
  | .connect host port =>
    match (n.reach host port).bind fun exchange => exchange (pieces body) with
    | .ok reply => ⟨200, none, reply⟩
    | .error e => plain 502 (errorBody e)

/-- The answer to a request. -/
def answer (n : Network) (r : RelayRequest) : RelayReply :=
  if maxBodySize < r.body.size then
    plain 413 "Failed to buffer the request body: length limit exceeded"
  else
    match r.descriptor? with
    | none => plain 400 RelayError.missingTarget.message
    | some raw =>
      match RelayTarget.parse raw with
      | .error e => plain 400 e.message
      | .ok target => answerTarget n r.body target

end RelayRequest

end ProxyControl
