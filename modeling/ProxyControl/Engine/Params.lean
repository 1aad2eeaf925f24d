import ProxyControl.LogLevel
import ProxyControl.Profile
import ProxyControl.Text.Quoted

/-!
# Start parameters

Everything that an engine's start call needs. For inspection the parameters are shown without the
key and the user name and password: only whether the latter are given.

## Main definitions

* `StartParams`: the parameters
* `StartParams.ofProfile`: the parameters of a profile
* `StartParams.inspect`: the parameters without their secrets
-/

set_option autoImplicit false

namespace ProxyControl

open Text

/-- Everything that an engine's start call needs. -/
structure StartParams where
  logLevel : LogLevel
  /-- The content of the route list, one entry a line. -/
  routeList : String
  server : String
  /-- The address that the engine listens on. -/
  localAddr : String
  /-- The user name and the password with a colon between them, or nothing. -/
  auth : String
  key : String
  /-- The dummy domain. -/
  domain : String
  /-- Encrypt only a part of each payload. -/
  isPartial : Bool
  /-- How many names the engine's resolver remembers. -/
  dnsCacheSize : UInt32
  /-- The port of the datagram relay. -/
  udpPort : UInt16
  /-- How many streams carry the datagrams. -/
  udpTcpFactor : UInt32
  deriving DecidableEq, Repr

namespace StartParams

/-- The parameters of a profile. -/
def ofProfile (p : Profile) (logLevel : LogLevel) (dnsCacheSize : UInt32) (routeList : String) :
    StartParams where
  logLevel := logLevel
  routeList := routeList
  server := p.serverAddr
  localAddr := p.localAddr
  auth := p.auth
  key := p.key
  domain := p.domain
  isPartial := p.isPartial
  dnsCacheSize := dnsCacheSize
  udpPort := p.udpPort
  udpTcpFactor := p.udpTcpFactor

/-- The parameters without their secrets. The route list is shown by its size. -/
def inspect (p : StartParams) : String :=
  "StartParams \x7b log_level: " ++ p.logLevel.inspect ++
    ", route_list_len: " ++ toString p.routeList.utf8ByteSize ++
    ", upstream: " ++ quoted p.server ++
    ", local_addr: " ++ quoted p.localAddr ++
    ", auth: " ++ toString (decide (p.auth ≠ "")) ++
    ", domain: " ++ quoted p.domain ++
    ", partial: " ++ toString p.isPartial ++
    ", dns_cache_size: " ++ toString p.dnsCacheSize.toNat ++
    ", udp_port: " ++ toString p.udpPort.toNat ++
    ", udp_tcp_factor: " ++ toString p.udpTcpFactor.toNat ++ ", .. \x7d"

end StartParams

end ProxyControl
