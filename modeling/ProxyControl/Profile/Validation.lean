import ProxyControl.Error
import ProxyControl.Profile
import ProxyControl.Text.Quoted

/-!
# Profiles that can be used

A profile can be used when its server, its local address and its key are given, when no field
holds a line end or a null character, when its server is a host and a port, and when its user name
holds no colon, by which the engine tells it from the password. The first rule that fails, in this
order, names the field.

## Main definitions

* `Profile.validate`: the first rule that a profile breaks
-/

set_option autoImplicit false

namespace ProxyControl.Profile

open Text

/-- The fields that must be given, with their names in messages. -/
def requiredFields (p : Profile) : List (String × String) :=
  [("server address", p.serverAddr), ("local address", p.localAddr), ("key", p.key)]

/-- The fields that hold text, with their names in messages. -/
def textFields (p : Profile) : List (String × String) :=
  [("server address", p.serverAddr), ("local address", p.localAddr), ("key", p.key),
    ("auth user", p.authUser), ("auth pass", p.authPass), ("domain", p.domain)]

/-- Whether a character would break the line that a field is written on. -/
def isForbidden (c : Char) : Bool := c = '\n' || c = '\r' || c = '\x00'

/-- The characters before and after the last colon. -/
def splitLastColon (cs : List Char) : Option (List Char × List Char) :=
  let fromEnd := cs.reverse
  match fromEnd.dropWhile (· ≠ ':') with
  | [] => none
  | _ :: host => some (host.reverse, (fromEnd.takeWhile (· ≠ ':')).reverse)

/-- Whether text is a host, a colon and a port. -/
def isHostPort (s : String) : Bool :=
  match splitLastColon s.toList with
  | none => false
  | some (host, port) => host ≠ [] && (readUnsigned? 65535 port).isSome

/-- Nothing, or the first of the rules for a usable profile that the profile breaks. -/
def validate (p : Profile) : Except ProfileError Unit :=
  match p.requiredFields.find? (fun f => isBlankText f.2) with
  | some (field, _) => .error (.missingField field)
  | none =>
    match p.textFields.find? (fun f => f.2.toList.any isForbidden) with
    | some (field, value) =>
      .error (.invalidField field (escaped value) "contains a control character")
    | none =>
      if !isHostPort p.serverAddr then
        .error (.invalidField "server address" p.serverAddr "expected host:port")
      else if p.authUser.toList.contains ':' then
        .error (.invalidField "auth user" p.authUser "must not contain ':'")
      else .ok ()

end ProxyControl.Profile
