import ProxyControl.Error
import ProxyControl.LogLevel
import ProxyControl.Mode
import ProxyControl.Text.LetterCase
import ProxyControl.Text.Number

/-!
# Settings

The settings hold from one run to the next. What a file gives is unchecked: any key may be missing
or have a value that no setting takes. Each setting is read from its own key alone, and a value it
does not take is replaced by the default with a warning; so a bad value never spoils another one.
Settings that are about to be written are checked instead, and refused.

## Main definitions

* `Settings`: the settings
* `RawSettings`: the values that a file gives
* `RawSettings.validate`: the settings that the values give, with the warnings
* `Settings.check`: the first setting with a value it must not have
-/

set_option autoImplicit false

namespace ProxyControl

open Text

/-- What holds from one run to the next. -/
structure Settings where
  logLevel : LogLevel
  mode : Mode
  lang : String
  /-- How many names the engine's resolver remembers. -/
  dnsCacheSize : UInt32
  /-- Start a session with the program. -/
  autostart : Bool
  /-- Inspect encrypted traffic. -/
  mitm : Bool
  /-- Start out of the way. -/
  autoMinimize : Bool
  logCapacity : Nat
  /-- The file with the route list, where it is not the usual one. -/
  routeList : Option String
  deriving DecidableEq, Repr

/-- The values that a file gives for the settings. -/
structure RawSettings where
  /-- The name of a log level. -/
  logLevel : Option String
  /-- The name of a mode. -/
  proxyType : Option String
  lang : Option String
  dnsCache : Option Int
  autostart : Option Bool
  mitm : Option Bool
  autoMin : Option Bool
  logCapacity : Option Int
  routeList : Option String
  deriving DecidableEq, Repr

namespace Settings

/-- The languages of the interface; the first is the default. -/
def languages : List String := ["en", "zh"]

/-- The largest number of names that the resolver remembers. -/
def maxDnsCacheSize : Nat := 1048576

/-- The smallest number of lines that the display keeps. -/
def minLogCapacity : Nat := 10

/-- The largest number of lines that the display keeps. -/
def maxLogCapacity : Nat := 10000

/-- The settings of a first run. -/
def initial : Settings where
  logLevel := .log
  mode := .iplist
  lang := "en"
  dnsCacheSize := 1024
  autostart := false
  mitm := false
  autoMinimize := false
  logCapacity := 100
  routeList := none

/-- Whether a number of names is in range. -/
def isDnsCacheSize (n : Int) : Bool := 1 ≤ n && n ≤ maxDnsCacheSize

/-- Whether a number of lines is in range. -/
def isLogCapacity (n : Int) : Bool := (minLogCapacity : Int) ≤ n && n ≤ maxLogCapacity

/-- Two numbers as a range. -/
def range (low high : Nat) : String := toString low ++ "-" ++ toString high

/-- Nothing, or the first setting with a value that it must not have. -/
def check (s : Settings) : Except SettingError Unit :=
  if asciiLower s.lang ∉ languages then
    .error (.valueOutOfRange "lang" s.lang (String.intercalate " or " languages))
  else if !isDnsCacheSize s.dnsCacheSize.toNat then
    .error (.valueOutOfRange "dns-cache" (toString s.dnsCacheSize.toNat) (range 1 maxDnsCacheSize))
  else if !isLogCapacity s.logCapacity then
    .error (.valueOutOfRange "log-capacity" (toString s.logCapacity)
      (range minLogCapacity maxLogCapacity))
  else .ok ()

end Settings

namespace RawSettings

/-- A file that gives no value. -/
def blank : RawSettings := ⟨none, none, none, none, none, none, none, none, none⟩

/-- The log level, or the warning about its value. -/
def readLogLevel (r : RawSettings) : LogLevel × List String :=
  match r.logLevel with
  | none => (Settings.initial.logLevel, [])
  | some value =>
    match LogLevel.read? value with
    | some level => (level, [])
    | none =>
      (Settings.initial.logLevel,
        ["[default] LogLevel = \"" ++ value ++ "\" is not recognised. " ++
          "Valid values: dbg, log, warn, err, off. Using default (" ++
          Settings.initial.logLevel.name ++ ")."])

/-- The mode, or the warning about its value. -/
def readMode (r : RawSettings) : Mode × List String :=
  match r.proxyType with
  | none => (Settings.initial.mode, [])
  | some value =>
    match Mode.read? value with
    | some mode => (mode, [])
    | none =>
      (Settings.initial.mode,
        ["[default] ProxyType = \"" ++ value ++ "\" is not recognised. " ++
          "Valid values: iplist, global, none. Using default (" ++
          Settings.initial.mode.name ++ ")."])

/-- The language in small letters, or the warning about its value. -/
def readLang (r : RawSettings) : String × List String :=
  match r.lang with
  | none => (Settings.initial.lang, [])
  | some value =>
    if lower value ∈ Settings.languages then (lower value, [])
    else
      (Settings.initial.lang,
        ["[default] Lang = \"" ++ value ++ "\" is not supported. Using default (" ++
          Settings.initial.lang ++ ")."])

/-- The number of names, or the warning about its value. -/
def readDnsCache (r : RawSettings) : UInt32 × List String :=
  match r.dnsCache with
  | none => (Settings.initial.dnsCacheSize, [])
  | some value =>
    if Settings.isDnsCacheSize value then (UInt32.ofNat value.toNat, [])
    else
      (Settings.initial.dnsCacheSize,
        ["[default] DNSCache = " ++ toString value ++ " is out of range (" ++
          Settings.range 1 Settings.maxDnsCacheSize ++ "). Using default (" ++
          toString Settings.initial.dnsCacheSize.toNat ++ ")."])

/-- The number of lines, or the warning about its value. -/
def readLogCapacity (r : RawSettings) : Nat × List String :=
  match r.logCapacity with
  | none => (Settings.initial.logCapacity, [])
  | some value =>
    if Settings.isLogCapacity value then (value.toNat, [])
    else
      (Settings.initial.logCapacity,
        ["[default] LogCapacity = " ++ toString value ++ " is out of range (" ++
          Settings.range Settings.minLogCapacity Settings.maxLogCapacity ++ "). Using default (" ++
          toString Settings.initial.logCapacity ++ ")."])

/-- The settings that the values of a file give, and a warning for each value that was replaced.
A blank path is no path. -/
def validate (r : RawSettings) : Settings × List String :=
  ({ logLevel := r.readLogLevel.1
     mode := r.readMode.1
     lang := r.readLang.1
     dnsCacheSize := r.readDnsCache.1
     autostart := r.autostart.getD Settings.initial.autostart
     mitm := r.mitm.getD Settings.initial.mitm
     autoMinimize := r.autoMin.getD Settings.initial.autoMinimize
     logCapacity := r.readLogCapacity.1
     routeList := r.routeList.filter fun path => !isBlankText path },
    r.readLogLevel.2 ++ r.readMode.2 ++ r.readLang.2 ++ r.readDnsCache.2 ++ r.readLogCapacity.2)

end RawSettings

end ProxyControl
