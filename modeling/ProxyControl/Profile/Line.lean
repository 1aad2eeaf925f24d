import ProxyControl.Dialect
import ProxyControl.Profile
import ProxyControl.Text.Blank

/-!
# Profiles on lines

A profile is written on one line of bar-separated fields: server, local address, key, user name,
password, the partial flag, the relay port, the stream factor, and the domain where there is one.
A line with fewer fields, with numbers that cannot be read, or without a server is no profile.

## Main definitions

* `Profile.toLine`: the line of a profile
* `Profile.ofLine?`: the profile of a line
-/

set_option autoImplicit false

namespace ProxyControl.Profile

open Text

/-- The fields of a profile's line, as text. -/
def lineFields (p : Profile) : List (List Char) :=
  [p.serverAddr.toList, p.localAddr.toList, p.key.toList, p.authUser.toList, p.authPass.toList,
      [if p.isPartial then '1' else '0'], decimal p.udpPort.toNat, decimal p.udpTcpFactor.toNat] ++
    if p.domain = "" then [] else [p.domain.toList]

/-- The line of a profile. -/
def toLine (d : Dialect) (p : Profile) : String := String.ofList (d.joinChars p.lineFields)

/-- The profile that the fields of a line describe. Fields after the domain are ignored. -/
def ofFields? : List (List Char) → Option Profile
  | server :: loc :: key :: user :: pass :: isPartial :: udp :: factor :: rest =>
    match readUnsigned? 65535 (trimChars udp), readUnsigned? 4294967295 (trimChars factor) with
    | some udp, some factor =>
      if server = [] then none
      else some {
        serverAddr := String.ofList server
        localAddr := String.ofList loc
        key := String.ofList key
        authUser := String.ofList user
        authPass := String.ofList pass
        isPartial := isPartial = ['1']
        udpPort := UInt16.ofNat udp
        udpTcpFactor := UInt32.ofNat factor
        domain := String.ofList (rest.headD []) }
    | _, _ => none
  | _ => none

/-- The profile of a line, with or without a carriage return at its end. -/
def ofLine? (d : Dialect) (line : String) : Option Profile :=
  ofFields? (d.splitChars (dropCarriageReturn line.toList))

end ProxyControl.Profile
