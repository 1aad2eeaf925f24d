import ProxyControl.Command.Dispatch
import ProxyControl.Command.Run
import ProxyControl.Engine.Child
import ProxyControl.Engine.Memory

/-!
# The command line

The program reads the files that a command may need into a disk, carries the command out on it, and
writes the files back that have changed. A session in memory is run with the lines of the standard
input. Programs are not started and sockets are not opened here, so an engine that is a program
cannot be created, and the relay cannot listen.

## Main definitions

* `main`: the program
-/

set_option autoImplicit false

namespace ProxyControl.Main

/-- The text of a place, from the root. -/
def textOf (place : Place) : String := String.join (place.map ("/" ++ ·))

/-- The places on the way along some names, whatever is there. -/
def placesOf (here : Place) : List String → List Place
  | [] => [here]
  | name :: rest =>
    here :: placesOf (if name = ".." then here.dropLast else if name = "." then here
      else here ++ [name]) rest

/-- A tree with what there is at a place. -/
def probe (t : FileTree) (place : Place) : IO FileTree := do
  if (t.content? place).isSome then return t
  try
    return t.set place (.file (← IO.FS.readBinFile (textOf place)))
  catch
    | .noFileOrDirectory .. => return t
    | _ => return t.set place .directory

/-- A tree with what there is on the way along a path. -/
def load (t : FileTree) (path : FilePath) : IO FileTree := do
  match path.route with
  | .error _ => return t
  | .ok r =>
    let parents := (List.range (r.start.length + 1)).map r.start.take
    (parents ++ placesOf r.start (r.way ++ [r.last])).foldlM probe t

/-- A disk with what a command may need. -/
def loadFor (w : Workplace) (c : Command) : IO Disk := do
  let t ← load .empty w.storeFile.path
  let (settings, _) := (loadSettings w.storeFile (.ofTree t)).1
  let t ← load t (w.path (settings.routeListPath w.paths))
  let source := match c with
    | .task (.importProfiles file _) => file.getD w.paths.flatFile
    | _ => w.paths.flatFile
  return .ofTree (← load t (w.path source))

/-- The files that are not as they were written back. -/
def store (before after : FileTree) : IO Unit := do
  for (place, entry) in after.entries do
    if before.content? place ≠ some entry then
      match entry with
      | .directory => IO.FS.createDirAll (textOf place)
      | .file bytes =>
        let temp := textOf place ++ ".tmp"
        IO.FS.writeBinFile temp bytes
        IO.FS.rename temp (textOf place)

/-- Lines printed on both streams. -/
def print (c : Console) : IO Unit := do
  for line in c.err do IO.eprintln line
  for line in c.out do IO.println line
  (← IO.getStdout).flush

/-- A session that has been carried on, with what is new printed. -/
def reveal {E : Type} (a : Attended E) : IO (Attended E) := do
  print a.console
  return { a with console := .silent }

/-- How many slices of time pass between two lines of the operator. -/
def pause : Nat := 6

/-- A session run with the lines of the standard input. -/
partial def attend {E : Type} (a : Attended E) : IO (Attended E) := do
  let a ← reveal (a.linger false pause)
  if a.isOver then return a
  let line ← (← IO.getStdin).getLine
  if line.isEmpty then attend a.endInput.tick else attend (a.obey line).poll

/-- A session run with an engine. -/
def run {E : Type} (engine : Engine E) (state : E) (a : RunArguments) (w : Workplace) (d : Disk) :
    IO (Outcome × Disk) := do
  match Attended.begin engine state (fun _ => "--:--:--") a w d with
  | .error refused => return refused
  | .ok session => return (← attend session).finish

/-- A network on which nothing is possible. -/
def noSockets : Network where
  lookup _ := .error .unsupported
  connect _ _ := .error .unsupported
  listen _ _ := .error .unsupported

/-- A command carried out on a disk. -/
def carryOut (w : Workplace) (d : Disk) : Command → IO (Outcome × Disk)
  | .task t => return t.perform noSockets w d
  | .run a =>
    match a.program with
    | none => run (MemoryEngine.engine 1) .idle a w d
    | some program =>
      run ChildEngine.engine
        (.idle ⟨program, w.path w.paths.dataDir, a.engineArgs⟩ (fun _ _ => .error (.os 38)) 0) a w d

end ProxyControl.Main

open ProxyControl ProxyControl.Main in
/-- The program. -/
def main (words : List String) : IO UInt32 := do
  match Invocation.read words with
  | .error refusal =>
    print refusal.outcome.console
    return UInt32.ofNat refusal.outcome.code
  | .ok i =>
    let here := (pieces (toString (← IO.currentDir))).filter (· ≠ "")
    let w := Workplace.choose here ((← IO.getEnv "HOME").getD "") i.configDir
    let before ← loadFor w i.command
    let (outcome, after) ← carryOut w before i.command
    store before.tree after.tree
    print outcome.console
    return UInt32.ofNat outcome.code
