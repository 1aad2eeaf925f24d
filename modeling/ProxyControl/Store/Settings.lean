import ProxyControl.Settings
import ProxyControl.Store.DocumentFile
import ProxyControl.Text.Utf8

/-!
# Saved settings

The settings are one section of a document. What cannot be read gives the settings of a first run,
with a warning; a file or a section that does not exist gives them without one. The route list is a
file of its own, read up to a limit, and empty where it cannot be read.

## Main definitions

* `loadSettings`, `saveSettings`: the settings of a file
* `Settings.toTable`, `RawSettings.ofTable?`: the values of the section
* `loadRouteList`: the content of a route list
-/

set_option autoImplicit false

namespace ProxyControl

open Document

/-- The name of the section that holds the settings. -/
def settingsSection : String := "default"

/-- The settings as a table, unless a number is too large to be written. -/
def Settings.toTable (s : Settings) : Except String Table :=
  if isInteger s.logCapacity then
    .ok (Table.ofEntries
      ([("LogLevel", .string s.logLevel.name), ("ProxyType", .string s.mode.name),
        ("Lang", .string s.lang), ("DNSCache", .integer s.dnsCacheSize.toNat),
        ("Autostart", .boolean s.autostart), ("MITM", .boolean s.mitm),
        ("AutoMin", .boolean s.autoMinimize), ("LogCapacity", .integer s.logCapacity)] ++
        match s.routeList with
        | none => []
        | some path => [("RouteList", .string path)]))
  else .error oversizeDetail

/-- The values that a table gives, unless one of them is of the wrong kind. -/
def RawSettings.ofTable? (t : Table) : Option RawSettings := do
  let logLevel ← t.optional? Value.text? "LogLevel"
  let proxyType ← t.optional? Value.text? "ProxyType"
  let lang ← t.optional? Value.text? "Lang"
  let dnsCache ← t.optional? Value.whole? "DNSCache"
  let autostart ← t.optional? Value.flag? "Autostart"
  let mitm ← t.optional? Value.flag? "MITM"
  let autoMin ← t.optional? Value.flag? "AutoMin"
  let logCapacity ← t.optional? Value.whole? "LogCapacity"
  let routeList ← t.optional? Value.text? "RouteList"
  return ⟨logLevel, proxyType, lang, dnsCache, autostart, mitm, autoMin, logCapacity, routeList⟩

/-- What ends the warning about settings that cannot be read. -/
def defaultsNotice : String := ". Using default settings."

/-- The settings of a file, and the warnings about them. -/
def loadSettings (file : DocumentFile) (d : Disk) : (Settings × List String) × Disk :=
  match file.section? settingsSection d with
  | (.error e, d) => ((Settings.initial, [e.message ++ defaultsNotice]), d)
  | (.ok none, d) => ((Settings.initial, []), d)
  | (.ok (some t), d) =>
    match RawSettings.ofTable? t with
    | some raw => (raw.validate, d)
    | none =>
      ((Settings.initial,
        ["[default] table in '" ++ file.path.shown ++ "' is malformed: " ++ mistypedDetail ++
          defaultsNotice]), d)

/-- Settings written to their section of a file. -/
def saveSettings (file : DocumentFile) (s : Settings) (d : Disk) :
    Except StoreError Unit × Disk :=
  match s.toTable with
  | .error detail => (.error (.serialize file.path.shown detail), d)
  | .ok t => file.putSection settingsSection t d

/-- How many bytes of a route list are read at most. -/
def maxRouteListSize : Nat := 8 * 1024 * 1024

/-- The content of a route list: the text of its bytes up to the limit, or nothing where the file
cannot be read. -/
def loadRouteList (path : FilePath) (d : Disk) : String × Disk :=
  match d.read path with
  | (.error _, d) => ("", d)
  | (.ok bytes, d) => (Text.decodeLossy (bytes.extract 0 maxRouteListSize), d)

end ProxyControl
