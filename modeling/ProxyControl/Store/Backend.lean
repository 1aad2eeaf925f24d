import ProxyControl.Profile.Line
import ProxyControl.Profile.Section
import ProxyControl.Store.DocumentFile

/-!
# Where profiles are kept

A backend reads and replaces the complete set of profiles in some world. One keeps them as lines of
a flat file, the other as sections of a document, beside sections that are none of its business and
stay as they are. A record that is no profile is left out when the profiles are read.

## Main definitions

* `Backend`: a place for profiles
* `flatFile`: the lines of a flat file
* `sectionFile`: the sections of a document
* `ProfileSection.toTable`, `ProfileSection.ofValue?`: the values of a section
-/

set_option autoImplicit false

namespace ProxyControl

open Document Text

/-- A place for profiles in a world of type `W`. -/
structure Backend (W : Type) where
  /-- The path that is shown. -/
  location : String
  /-- Every profile that can be read. -/
  readAll : W → Except StoreError (List Profile) × W
  /-- The profiles that are kept, replaced. -/
  writeAll : List Profile → W → Except StoreError Unit × W

/-! ## Lines of a flat file -/

/-- The profiles of a flat file: those of its lines that are neither blank nor malformed. -/
def profilesOfText (dialect : Dialect) (text : String) : List Profile :=
  ((lines text.toList).filter fun l => !l.all isBlank).filterMap fun l =>
    Profile.ofLine? dialect (String.ofList l)

/-- The text of a flat file. -/
def textOfProfiles (dialect : Dialect) (profiles : List Profile) : String :=
  String.ofList (profiles.flatMap fun p => (p.toLine dialect).toList ++ ['\n'])

/-- A flat file with one profile a line. -/
def flatFile (path : FilePath) (dialect : Dialect) : Backend Disk where
  location := path.shown
  readAll d :=
    match DocumentFile.readText path d with
    | (.error e, d) => (.error e, d)
    | (.ok none, d) => (.ok [], d)
    | (.ok (some text), d) => (.ok (profilesOfText dialect text), d)
  writeAll profiles d := d.writeAtomic path (textOfProfiles dialect profiles).toUTF8

/-! ## Sections of a document -/

namespace ProfileSection

/-- The names of the values of a section, in their order where a list gives them. -/
def fieldNames : List String :=
  ["Address", "Local", "Key", "Username", "Password", "Partial", "UDP", "UDPoverTCP", "Domain"]

/-- A section as a table. -/
def toTable (s : ProfileSection) : Table :=
  Table.ofEntries
    [("Address", .string s.address), ("Local", .string s.loc), ("Key", .string s.key),
      ("Username", .string s.username), ("Password", .string s.password),
      ("Partial", .boolean s.isPartial), ("UDP", .integer s.udp.toNat),
      ("UDPoverTCP", .integer s.udpOverTcp.toNat), ("Domain", .string s.domain)]

/-- The section that a table gives, unless one of its values is of the wrong kind. Names that no
section has are left aside. -/
def ofTable? (t : Table) : Option ProfileSection := do
  -- a missing value is that of a blank section; only a value of the wrong kind refuses it
  let address ← t.field? Value.text? blank.address "Address"
  let loc ← t.field? Value.text? blank.loc "Local"
  let key ← t.field? Value.text? blank.key "Key"
  let username ← t.field? Value.text? blank.username "Username"
  let password ← t.field? Value.text? blank.password "Password"
  let isPartial ← t.field? Value.flag? blank.isPartial "Partial"
  let udp ← t.field? (Value.upTo? 65535) blank.udp.toNat "UDP"
  let udpOverTcp ← t.field? (Value.upTo? 4294967295) blank.udpOverTcp.toNat "UDPoverTCP"
  let domain ← t.field? Value.text? blank.domain "Domain"
  return ⟨address, loc, key, username, password, isPartial, UInt16.ofNat udp,
    UInt32.ofNat udpOverTcp, domain⟩

/-- The section that a value gives: a table, or a list that is no longer than a section. -/
def ofValue? : Value → Option ProfileSection
  | .table t => ofTable? t
  | .array items =>
    if items.length ≤ fieldNames.length then ofTable? (fieldNames.zip items) else none
  | _ => none

end ProfileSection

/-- The profiles of a document, in the order of their sections. -/
def profilesOfDocument (t : Table) : List Profile :=
  (t.filter fun e => isProfileSection e.1).filterMap fun e =>
    (ProfileSection.ofValue? e.2).bind (Profile.ofSection? e.1)

/-- A document with the sections of some profiles in place of all profile sections it had. -/
def putProfiles (t : Table) (profiles : List Profile) : Table :=
  profiles.foldl
    (fun t p => t.put (Profile.sectionName p.serverAddr) (.table p.toSection.toTable))
    (t.keep fun name => !isProfileSection name)

/-- A document with one profile a section. -/
def sectionFile (file : DocumentFile) : Backend Disk where
  location := file.path.shown
  readAll d :=
    match file.read d with
    | (.error e, d) => (.error e, d)
    | (.ok t, d) => (.ok (profilesOfDocument t), d)
  writeAll profiles d :=
    match file.read d with
    | (.error e, d) => (.error e, d)
    | (.ok t, d) => file.write (putProfiles t profiles) d

end ProxyControl
