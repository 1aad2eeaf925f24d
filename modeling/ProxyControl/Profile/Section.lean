import ProxyControl.Profile

/-!
# Profiles in sections

In a store of named sections the section of a profile is named after its server, with a prefix
that no other section has. The section repeats the server's address; where it does not, the name
gives it.

## Main definitions

* `ProfileSection`: the values of a profile's section
* `Profile.sectionName`, `isProfileSection`: the names
* `Profile.toSection`, `Profile.ofSection?`: a profile as a section
-/

set_option autoImplicit false

namespace ProxyControl

/-- The values of a profile's section. -/
structure ProfileSection where
  /-- The address of the server, or nothing when only the section's name gives it. -/
  address : String
  loc : String
  key : String
  username : String
  password : String
  isPartial : Bool
  udp : UInt16
  udpOverTcp : UInt32
  domain : String
  deriving DecidableEq, Repr

/-- The values of a section that gives none. -/
def ProfileSection.blank : ProfileSection where
  address := ""
  loc := Profile.defaultLocalAddr
  key := ""
  username := ""
  password := ""
  isPartial := false
  udp := Profile.defaultUdpPort
  udpOverTcp := Profile.defaultUdpTcpFactor
  domain := ""

/-- What the names of profile sections start with. -/
def profileSectionStart : List Char := "server-".toList

/-- Whether a section holds a profile, by its name. -/
def isProfileSection (name : String) : Bool := profileSectionStart.isPrefixOf name.toList

namespace Profile

/-- The name of the section of a server. -/
def sectionName (serverAddr : String) : String :=
  String.ofList (profileSectionStart ++ serverAddr.toList)

/-- The address of the server after which a section is named. -/
def addressOfSectionName? (name : String) : Option String :=
  if isProfileSection name then
    some (String.ofList (name.toList.drop profileSectionStart.length))
  else none

/-- The values of a profile's section. -/
def toSection (p : Profile) : ProfileSection where
  address := p.serverAddr
  loc := p.localAddr
  key := p.key
  username := p.authUser
  password := p.authPass
  isPartial := p.isPartial
  udp := p.udpPort
  udpOverTcp := p.udpTcpFactor
  domain := p.domain

/-- The profile of a section, unless neither the section nor its name gives a server. -/
def ofSection? (name : String) (s : ProfileSection) : Option Profile :=
  let server := if s.address = "" then addressOfSectionName? name else some s.address
  match server with
  | none => none
  | some server =>
    if server = "" then none
    else some {
      serverAddr := server
      localAddr := s.loc
      key := s.key
      authUser := s.username
      authPass := s.password
      isPartial := s.isPartial
      udpPort := s.udp
      udpTcpFactor := s.udpOverTcp
      domain := s.domain }

end Profile

end ProxyControl
