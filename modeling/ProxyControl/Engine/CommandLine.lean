import ProxyControl.Engine.Params
import ProxyControl.Files.Disk

/-!
# The command line of an engine

An engine that is a program of its own takes the start parameters on its command line. Values that
may be missing have a flag only where they are given. The route list is handed over as a file,
which is written first; an engine whose route list cannot be written does without it.

## Main definitions

* `ProgramConfig`: the program and what is the same for all sessions
* `ProgramConfig.arguments`: the arguments of a session
* `checkArguments`: whether they can be handed to a program
* `ProgramConfig.writeRouteList`: the file of the route list
* `ProgramConfig.nickname`: the name of a session
-/

set_option autoImplicit false

namespace ProxyControl

/-- A program that is an engine. -/
structure ProgramConfig where
  /-- The path of the program. -/
  program : String
  /-- The directory for the files of a session. -/
  workDir : FilePath
  /-- Arguments after all others. -/
  extraArgs : List String
  deriving DecidableEq, Repr

/-- How many bytes an argument has at most. -/
def maxArgumentSize : Nat := 131071

/-- How many bytes all arguments have at most. -/
def maxArgumentsSize : Nat := 2097152

/-- How many bytes an argument takes among all: those of its text, one at its end and those of its
address. -/
def argumentCost (argument : String) : Nat := argument.utf8ByteSize + 9

/-- How many bytes arguments take together. -/
def totalCost (arguments : List String) : Nat := arguments.foldl (fun n a => n + argumentCost a) 0

/-- Why texts cannot be handed to a program as its arguments, if they cannot. -/
def checkArguments (arguments : List String) : Except IoError Unit :=
  if arguments.any fun a => a.toList.contains '\x00' then .error .invalidArgument
  else if (arguments.any fun a => maxArgumentSize < a.utf8ByteSize) ||
      maxArgumentsSize < totalCost arguments then .error .argumentsTooLong
  else .ok ()

/-- A flag with its value, where there is one. -/
def optionalFlag (flag value : String) : List String := if value = "" then [] else [flag, value]

namespace ProgramConfig

/-- The arguments of a session, with the path of its route list if it has one. -/
def arguments (c : ProgramConfig) (p : StartParams) (routeList : Option String) : List String :=
  ["-up", p.server, "-l", p.localAddr, "-k", p.key, "-lv", p.logLevel.name,
      "-dns-cache", toString p.dnsCacheSize.toNat, "-udp", toString p.udpPort.toNat,
      "-udp-tcp", toString p.udpTcpFactor.toNat] ++
    optionalFlag "-a" p.auth ++ (if p.isPartial then ["-partial"] else []) ++
    optionalFlag "-domain" p.domain ++
    (match routeList with
      | none => []
      | some path => ["-china-list", path]) ++
    c.extraArgs

/-- The name of the file of the route list. -/
def routeListName : String := "chinalist.txt"

/-- The path of the file of the route list, written with the given content unless that is empty. -/
def writeRouteList (c : ProgramConfig) (content : String) (d : Disk) : Option String × Disk :=
  if content = "" then (none, d)
  else
    match d.createDirs c.workDir with
    | (.error _, d) => (none, d)
    | (.ok (), d) =>
      match d.write (c.workDir.join routeListName) content.toUTF8 with
      | (.error _, d) => (none, d)
      | (.ok (), d) => (some (c.workDir.join routeListName).shown, d)

/-- The name of a file without the last suffix. A point at the start begins no suffix. -/
def stem (name : String) : String :=
  let fromEnd := name.toList.reverse
  match fromEnd.dropWhile (· ≠ '.') with
  | _ :: rest => if rest = [] then name else String.ofList rest.reverse
  | [] => name

/-- The name of a session whose process has the given number. -/
def nickname (c : ProgramConfig) (processId : Nat) : String :=
  ((fileName? c.program).map stem).getD "engine" ++ ":" ++ toString processId

example : (ProgramConfig.mk "./bin/.engine.x.sh" ⟨"", []⟩ []).nickname 7 = ".engine.x:7" := by
  decide

end ProgramConfig

end ProxyControl
