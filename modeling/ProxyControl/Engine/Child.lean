import ProxyControl.Engine.Output
import ProxyControl.Engine.Process

/-!
# Engines whose children follow a plan

For rehearsals the child process of an engine is given by a plan: what it writes, how long it waits,
what it makes of the lines on its input, and how it exits. The clock counts milliseconds. A start
call looks for the child's exit at whole multiples of an interval after the start.

## Main definitions

* `OutputPipe`: where a child writes
* `ChildPlan`, `Child`: a plan, and a process that follows it
* `Child.advance`: the plan followed up to a time
* `ChildEngine`: an engine with such children
* `ChildEngine.engine`: its calls
-/

set_option autoImplicit false

namespace ProxyControl

/-- Where a child process writes. -/
inductive OutputPipe where
  | out
  | err
  deriving DecidableEq, Repr

/-- What a child process does next, and what it does after that. -/
inductive ChildPlan where
  | write (pipe : OutputPipe) (bytes : List UInt8) (next : Unit → ChildPlan)
  /-- A number of milliseconds passes. -/
  | wait (ms : Nat) (next : Unit → ChildPlan)
  /-- A line is read, unless the input has ended. -/
  | readLine (next : Option String → ChildPlan)
  /-- Nothing happens before the process is killed. -/
  | hang
  /-- The process ends by a signal. -/
  | die
  | exit (code : Nat)

namespace ChildPlan

/-- A number of lines read, as long as there are any, and each written with a text before it. -/
def answer (before : String) (next : ChildPlan) : Nat → ChildPlan
  | 0 => next
  | n + 1 => .readLine fun line =>
    match line with
    | none => next
    | some line => .write .out (before ++ line ++ "\n").toUTF8.toList fun () => answer before next n

end ChildPlan

/-- A child process. -/
structure Child where
  /-- What it does next. -/
  plan : ChildPlan
  input : List String
  /-- Whether more lines can come. -/
  inputOpen : Bool
  /-- When the last step was done. -/
  clock : Nat
  /-- What has been written, the latest piece first. -/
  written : List (OutputPipe × List UInt8)
  /-- How and when the process ended: its exit code, unless a signal ended it, and the time. -/
  ended : Option (Option Nat × Nat)

namespace Child

/-- A process at the start of its plan. -/
def ofPlan (plan : ChildPlan) (now : Nat) : Child := ⟨plan, [], true, now, [], none⟩

/-- The process ended now, with an exit code unless a signal ended it. -/
def endNow (code : Option Nat) (c : Child) : Child :=
  { c with plan := .hang, ended := some (code, c.clock) }

/-- The process after the steps of a plan, as far as they can be done up to a time. -/
def follow (now : Nat) : ChildPlan → Child → Child
  | .write pipe bytes next, c =>
    follow now (next ()) { c with written := (pipe, bytes) :: c.written }
  | .wait ms next, c =>
    if c.clock + ms ≤ now then follow now (next ()) { c with clock := c.clock + ms }
    else { c with plan := .wait ms next }
  | .readLine next, c =>
    match c.input with
    | line :: left =>
      follow now (next (some line)) { c with input := left, clock := max c.clock now }
    | [] =>
      if c.inputOpen then { c with plan := .readLine next }
      else follow now (next none) { c with clock := max c.clock now }
  | .hang, c => { c with plan := .hang }
  | .die, c => c.endNow none
  | .exit code, c => c.endNow (some code)

/-- The process after all steps that it can do up to a time. -/
def advance (now : Nat) (c : Child) : Child :=
  if c.ended.isSome then c else follow now c.plan c

/-- The process killed. -/
def kill (now : Nat) (c : Child) : Child :=
  if c.ended.isSome then c else { c with plan := .hang, ended := some (none, now) }

end Child

/-- An engine whose children follow plans. -/
structure ChildEngine where
  config : ProgramConfig
  /-- The plan of a child among the files that there are and with given arguments, or why none can
  be created. -/
  planOf : FileTree → List String → Except IoError ChildPlan
  /-- The number of the processes. -/
  processId : Nat
  /-- The shared state. -/
  shared : ProcessEngine
  /-- The latest child. -/
  child : Child
  /-- The line that the reader of a pipe is in. -/
  readers : OutputPipe → LineReader
  now : Nat
  /-- The time of the latest start. -/
  startedAt : Nat

namespace ChildEngine

/-- How often a start call looks for the exit of its child, in milliseconds. -/
def pollInterval : Nat := 100

/-- The stamp of the records. -/
def stamp : Nat := 1

/-- An engine that was never called. -/
def idle (config : ProgramConfig)
    (planOf : FileTree → List String → Except IoError ChildPlan) (processId : Nat) :
    ChildEngine where
  config := config
  planOf := planOf
  processId := processId
  shared := .idle
  child := .ofPlan .hang 0
  readers _ := .initial
  now := 0
  startedAt := 0

/-- Lines pushed as records of the latest session. -/
def pushLines (e : ChildEngine) (lines : List (List UInt8)) : ChildEngine :=
  { e with shared :=
      e.shared.pushAll e.shared.launches (lines.map fun l => ⟨stamp, lineText l⟩) }

/-- Bytes read by the reader of a pipe. -/
def readPipe (e : ChildEngine) (pipe : OutputPipe) (bytes : List UInt8) : ChildEngine :=
  let (lines, reader) := (e.readers pipe).feed bytes
  { e with readers := fun p => if p = pipe then reader else e.readers p }.pushLines lines

/-- The lines that the end of the output completes. -/
def closePipes (e : ChildEngine) : ChildEngine :=
  { e with readers := fun _ => .initial }.pushLines
    ((e.readers .out).finish ++ (e.readers .err).finish)

/-- What the child has written read. -/
def readOutput (e : ChildEngine) : ChildEngine :=
  let e := e.child.written.reverse.foldl (fun e piece => e.readPipe piece.1 piece.2)
    { e with child := { e.child with written := [] } }
  -- a last line without a line end is complete when the process has ended
  if e.child.ended.isSome then e.closePipes else e

/-- The engine after its child has done all that it can do now. -/
def settle (e : ChildEngine) : ChildEngine :=
  { e with child := e.child.advance e.now }.readOutput

/-- The engine at a later time. -/
def pass (time : Nat) (e : ChildEngine) : ChildEngine := { e with now := time }.settle

/-- A start call up to readiness. -/
def start (p : StartParams) (e : ChildEngine) (d : Disk) : Launch × ChildEngine × Disk :=
  if e.shared.running then
    let (launch, shared) := e.shared.launch (.ok "")
    (launch, { e with shared := shared }, d)
  else
    let (routeList, d) := e.config.writeRouteList p.routeList d
    let arguments := e.config.arguments p routeList
    match (checkArguments arguments).bind fun () => e.planOf d.tree arguments with
    -- the route list stays on the disk even where no child is created
    | .error err =>
      let (launch, shared) := e.shared.launch (.error err)
      (launch, { e with shared := shared }, d)
    | .ok plan =>
      let (launch, shared) := e.shared.launch (.ok (e.config.nickname e.processId))
      (launch, { e with
        shared := shared
        child := .ofPlan plan e.now
        readers := fun _ => .initial
        startedAt := e.now }, d)

/-- When a start call notices that its child ended at a time. -/
def noticedAt (e : ChildEngine) (time : Nat) : Nat :=
  e.startedAt + ((time - e.startedAt) / pollInterval + 1) * pollInterval

/-- A start call whose child has ended, once it has noticed. -/
def finish? (e : ChildEngine) : Option (Status × ChildEngine) :=
  match e.child.ended with
  | none => none
  | some (code, time) =>
    if e.shared.running && e.noticedAt time ≤ e.now then
      let (stopRequested, shared) := e.shared.recordExit
      some (exitStatus code stopRequested, { e with shared := shared })
    else none

/-- A request to stop. -/
def stop (e : ChildEngine) : ChildEngine :=
  let (kills, shared) := e.shared.requestStop
  let e := { e with shared := shared }
  if kills then
    { e with child := { e.child.kill e.now with inputOpen := false } }.readOutput
  else e

/-- A control line sent to the child, and whether it was taken. -/
def send (line : String) (e : ChildEngine) : Bool × ChildEngine :=
  let taken := e.shared.control e.child.ended.isNone
  (taken, if taken then
    { e with child := { e.child with input := e.child.input ++ [line] } }.settle
  else e)

/-- A switch of the mode, and the constant that now applies. -/
def switchMode (constant : UInt32) (e : ChildEngine) : UInt32 × ChildEngine :=
  let (taken, next) := e.send (ProcessEngine.modeLine constant)
  (e.shared.switchMode taken constant, next)

/-- The calls of the engine. -/
def engine : Engine ChildEngine where
  start := start
  finish? := finish?
  stop := stop
  switchMode := switchMode
  setMitm on e := (e.send (ProcessEngine.mitmLine on)).2
  nickname e := e.shared.nickname
  logLength e := e.shared.logLength
  logRead index e := e.shared.logs.read index
  logDeleteSince index e :=
    { e with shared := { e.shared with logs := e.shared.logs.dropThrough index } }
  pass := pass

end ChildEngine

end ProxyControl
