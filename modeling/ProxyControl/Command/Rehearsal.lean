import ProxyControl.Command.Dispatch
import ProxyControl.Command.Run
import ProxyControl.Engine.Child
import ProxyControl.Engine.Memory
import ProxyControl.Relay.Isolated

/-!
# Rehearsals of command lines

In a rehearsal nothing but a disk is touched, and no network is there. What a program does is given
by a plan, and an operator by what they type.

## Main definitions

* `Rehearsal`: what stands in for the world
* `Rehearsal.execute`: the outcome of a command line
-/

set_option autoImplicit false

namespace ProxyControl

/-- What stands in for the world. -/
structure Rehearsal where
  /-- The working directory. -/
  workDir : Place
  /-- The home directory. -/
  home : String
  /-- The number of every process. -/
  processId : Nat
  /-- The plan of a program among the files that there are and with given arguments, or why it
  cannot be run. -/
  planOf : FilePath → FileTree → List String → Except IoError ChildPlan
  operator : Operator
  /-- How many slices of time a session is given. -/
  slices : Nat

namespace Rehearsal

/-- The time of day where it is not told. -/
def hiddenClock (_ : Option Timestamp) : String := "--:--:--"

/-- A session run with an engine. -/
def runWith {E : Type} (r : Rehearsal) (engine : Engine E) (state : E) (a : RunArguments)
    (w : Workplace) (d : Disk) : Outcome × Disk :=
  match Attended.begin engine state hiddenClock a w d with
  | .error refused => refused
  | .ok session => (session.attend r.operator r.slices).finish

/-- A session run. -/
def run (r : Rehearsal) (a : RunArguments) (w : Workplace) (d : Disk) : Outcome × Disk :=
  match a.program with
  | none => r.runWith (MemoryEngine.engine 1) .idle a w d
  | some program =>
    let config : ProgramConfig := ⟨program, w.path w.paths.dataDir, a.engineArgs⟩
    r.runWith ChildEngine.engine
      (.idle config (r.planOf ⟨program, r.workDir⟩) r.processId) a w d

/-- The outcome of a command line. -/
def execute (r : Rehearsal) (words : List String) (d : Disk) : Outcome × Disk :=
  match Invocation.read words with
  | .error refusal => (refusal.outcome, d)
  | .ok i =>
    let w := Workplace.choose r.workDir r.home i.configDir
    match i.command with
    | .task t => t.perform .isolated w d
    | .run a => r.run a w d

end Rehearsal

end ProxyControl
