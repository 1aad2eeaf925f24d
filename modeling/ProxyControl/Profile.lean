/-!
# Profiles

A profile is everything that a session with one server needs. Profiles are told apart by
the address of their server.

## Main definitions

* `Profile`: a connection profile
* `Profile.new`: the profile of a server about which nothing else is known
* `Profile.auth`: the user name and password as the engine takes them
-/

set_option autoImplicit false

namespace ProxyControl

/-- A connection profile. -/
structure Profile where
  serverAddr : String
  /-- The address that the engine listens on. -/
  localAddr : String
  key : String
  /-- The user name for basic authentication, which may be empty. -/
  authUser : String
  /-- The password for basic authentication, which may be empty. -/
  authPass : String
  /-- Encrypt only a part of each payload. -/
  isPartial : Bool
  /-- The port of the datagram relay. -/
  udpPort : UInt16
  /-- How many streams carry the datagrams when they go over streams. -/
  udpTcpFactor : UInt32
  /-- The dummy domain presented to the server, which may be empty. -/
  domain : String
  deriving DecidableEq, Repr

namespace Profile

/-- The local address of a profile that names none. -/
def defaultLocalAddr : String := ":8100"

/-- The relay port of a profile that names none. -/
def defaultUdpPort : UInt16 := 8731

/-- The number of streams of a profile that names none. -/
def defaultUdpTcpFactor : UInt32 := 3

/-- The profile of a server about which nothing else is known. -/
def new (serverAddr : String) : Profile where
  serverAddr := serverAddr
  localAddr := defaultLocalAddr
  key := ""
  authUser := ""
  authPass := ""
  isPartial := false
  udpPort := defaultUdpPort
  udpTcpFactor := defaultUdpTcpFactor
  domain := ""

/-- The user name and the password with a colon between them, or nothing unless both are given. -/
def auth (p : Profile) : String :=
  if p.authUser = "" ∨ p.authPass = "" then "" else p.authUser ++ ":" ++ p.authPass

end Profile

end ProxyControl
