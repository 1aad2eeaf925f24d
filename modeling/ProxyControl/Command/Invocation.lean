import ProxyControl.Command.Grammar
import ProxyControl.Profile
import ProxyControl.Settings

/-!
# Commands

A command line runs a session, manages the saved profiles, shows or changes the settings, or serves
the relay. Every command takes the directory of the files, the innermost one if several are given.

## Main definitions

* `Command`, `Task`: the commands
* `RunArguments`, `SettingsChange`: what the larger ones take
* `RunArguments.profile`, `SettingsChange.apply`: values given over values that are there
* `Invocation.read`: the command on a command line
-/

set_option autoImplicit false

namespace ProxyControl

/-- What a session is run with. -/
structure RunArguments where
  server : String
  key : Option String
  loc : Option String
  user : Option String
  password : Option String
  /-- Whether only a part of each payload is encrypted. -/
  isPartial : Option Bool
  udpPort : Option UInt16
  /-- How many streams carry the datagrams. -/
  udpTcpFactor : Option UInt32
  /-- The dummy domain. -/
  domain : Option String
  mode : Option Mode
  /-- Whether to inspect. -/
  mitm : Bool
  logLevel : Option LogLevel
  /-- The program that is the engine, or nothing for the engine in memory. -/
  program : Option String
  /-- Further arguments of the program. -/
  engineArgs : List String
  deriving DecidableEq, Repr

/-- New values of settings. -/
structure SettingsChange where
  /-- How much the engine logs. -/
  logLevel : Option LogLevel
  mode : Option Mode
  lang : Option String
  /-- How many names the engine's resolver remembers. -/
  dnsCacheSize : Option UInt32
  autostart : Option Bool
  /-- Whether to inspect. -/
  mitm : Option Bool
  autoMinimize : Option Bool
  /-- How many lines the display keeps. -/
  logCapacity : Option Nat
  /-- The path of the route list. -/
  routeList : Option String
  deriving DecidableEq, Repr

/-- A command that ends by itself. -/
inductive Task where
  /-- List the saved profiles, as an exported list or as a table. -/
  | listProfiles (asExport : Bool)
  | deleteProfile (server : String)
  /-- Import the profiles of a flat file. -/
  | importProfiles (file : Option String) (fullEscaping : Bool)
  | showSettings
  | changeSettings (change : SettingsChange)
  /-- Serve the relay. -/
  | relay (listen : String)
  deriving DecidableEq, Repr

/-- A command. -/
inductive Command where
  /-- Run a session for an operator. -/
  | run (arguments : RunArguments)
  | task (t : Task)
  deriving DecidableEq, Repr

/-- What a command line asks for. -/
structure Invocation where
  configDir : Option String
  command : Command
  deriving DecidableEq, Repr

/-! ## Values given over values that are there -/

/-- The profile that a session is run with: the values given over those of the saved profile for the
server, or of a new one. -/
def RunArguments.profile (a : RunArguments) (saved : Option Profile) : Profile :=
  let p := saved.getD (.new a.server)
  { p with
    key := a.key.getD p.key
    localAddr := a.loc.getD p.localAddr
    authUser := a.user.getD p.authUser
    authPass := a.password.getD p.authPass
    isPartial := a.isPartial.getD p.isPartial
    udpPort := a.udpPort.getD p.udpPort
    udpTcpFactor := a.udpTcpFactor.getD p.udpTcpFactor
    domain := a.domain.getD p.domain }

/-- Settings with the values of a change over them. -/
def SettingsChange.apply (c : SettingsChange) (s : Settings) : Settings where
  logLevel := c.logLevel.getD s.logLevel
  mode := c.mode.getD s.mode
  lang := c.lang.getD s.lang
  dnsCacheSize := c.dnsCacheSize.getD s.dnsCacheSize
  autostart := c.autostart.getD s.autostart
  mitm := c.mitm.getD s.mitm
  autoMinimize := c.autoMinimize.getD s.autoMinimize
  logCapacity := c.logCapacity.getD s.logCapacity
  routeList := c.routeList.or s.routeList

/-! ## The grammar -/

namespace Invocation

open OptionSpec

/-- The options that every command has. -/
def sharedOptions : List OptionSpec := [(flag "debug").orLetter 'd', valued "config-dir" .path]

/-- The largest port. -/
def maxPort : Nat := 65535

/-- The largest number in 32 bits. -/
def maxWord : Nat := 4294967295

/-- The options of a run. -/
def runOptions : List OptionSpec :=
  [(valued "server" .text).orLetter 's', (valued "key" .text).orLetter 'k',
    (valued "local" .text).orLetter 'l', valued "user" .text, valued "pass" .text,
    valued "partial" .truth, valued "udp" (.whole maxPort), valued "udp-tcp" (.whole maxWord),
    valued "domain" .text, (valued "mode" .mode).orLetter 'm', flag "mitm",
    valued "log-level" .logLevel, flag "dry-run", valued "engine" .path,
    { valued "engine-arg" .text with isRepeatable := true }]

/-- The largest number of lines that can be asked for. -/
def maxCount : Nat := 18446744073709551615

/-- The options of a change of settings. -/
def changeOptions : List OptionSpec :=
  [valued "log-level" .logLevel, valued "mode" .mode, valued "lang" .text,
    valued "dns-cache" (.whole maxWord), valued "autostart" .truth, valued "mitm" .truth,
    valued "auto-min" .truth, valued "log-capacity" (.count maxCount),
    valued "route-list" .path]

/-- The options that one command has. -/
def ownOptions : List String → List OptionSpec
  | ["run"] => runOptions
  | ["relay"] => [valued "listen" .text]
  | ["profiles", "list"] => [flag "json"]
  | ["profiles", "import"] => [flag "full-escaping"]
  | ["settings", "set"] => changeOptions
  | _ => []

/-- The words without a name of their own that a command takes. -/
def places : List String → List (String × ValueKind)
  | ["profiles", "delete"] => [("server", .text)]
  | ["profiles", "import"] => [("file", .path)]
  | _ => []

/-- The commands that can follow a command. -/
def commands : List String → List String
  | [] => ["run", "profiles", "settings", "relay"]
  | ["profiles"] => ["list", "delete", "import"]
  | ["settings"] => ["show", "set"]
  | _ => []

/-- What can be given after the names that lead to a command. -/
def grammar : Grammar := fun path =>
  ⟨(if path = [] then [helpOption, versionOption] else [helpOption]) ++ sharedOptions ++
      ownOptions path, places path, commands path⟩

/-! ## Reading -/

/-- The truth value of a name. -/
def truth? (b : Bindings) (name : String) : Option Bool :=
  (b.last? name).bind ValueKind.readTruth?

/-- The number of a name. -/
def number? (b : Bindings) (name : String) (largest : Nat) : Option Nat :=
  (b.last? name).bind (ValueKind.readWhole? largest)

/-- The arguments of a run, which needs a server and one engine. -/
def readRun? (b : Bindings) : Option RunArguments :=
  match b.last? "server" with
  | none => none
  | some server =>
    if b.has "dry-run" = b.has "engine" then none
    else some {
      server := server
      key := b.last? "key"
      loc := b.last? "local"
      user := b.last? "user"
      password := b.last? "pass"
      isPartial := truth? b "partial"
      udpPort := (number? b "udp" maxPort).map UInt16.ofNat
      udpTcpFactor := (number? b "udp-tcp" maxWord).map UInt32.ofNat
      domain := b.last? "domain"
      mode := (b.last? "mode").bind Mode.read?
      mitm := b.has "mitm"
      logLevel := (b.last? "log-level").bind LogLevel.read?
      program := b.last? "engine"
      engineArgs := b.all "engine-arg" }

/-- A change of settings. -/
def readChange (b : Bindings) : SettingsChange where
  logLevel := (b.last? "log-level").bind LogLevel.read?
  mode := (b.last? "mode").bind Mode.read?
  lang := b.last? "lang"
  dnsCacheSize := (number? b "dns-cache" maxWord).map UInt32.ofNat
  autostart := truth? b "autostart"
  mitm := truth? b "mitm"
  autoMinimize := truth? b "auto-min"
  logCapacity := (b.last? "log-capacity").bind fun w => Text.readUnsigned? maxCount w.toList
  routeList := b.last? "route-list"

/-- Where the relay listens if no address is given. -/
def defaultListen : String := "127.0.0.1:8080"

/-- The task that bindings make up. -/
def readTask? (b : Bindings) : Option Task :=
  match b.path with
  | ["profiles", "list"] => some (.listProfiles (b.has "json"))
  | ["profiles", "delete"] => (b.last? "server").map .deleteProfile
  | ["profiles", "import"] => some (.importProfiles (b.last? "file") (b.has "full-escaping"))
  | ["settings", "show"] => some .showSettings
  | ["settings", "set"] => some (.changeSettings (readChange b))
  | ["relay"] => some (.relay ((b.last? "listen").getD defaultListen))
  | _ => none

/-- The command that bindings make up. -/
def readCommand? (b : Bindings) : Option Command :=
  if b.path = ["run"] then (readRun? b).map .run else (readTask? b).map .task

/-- What a command line asks for. -/
def read (words : List String) : Except Refusal Invocation :=
  match grammar.read words with
  | .error e => .error e
  | .ok b =>
    match readCommand? b with
    | some command => .ok ⟨b.last? "config-dir", command⟩
    | none => .error .misuse

end Invocation

end ProxyControl
