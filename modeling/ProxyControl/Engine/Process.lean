import ProxyControl.Engine.CommandLine
import ProxyControl.Engine.Contract

/-!
# Engines that are processes

An engine can be a program of its own, which runs as a child process for each session. Its output
lines are the records of the session; control lines go to its input. The functions here are the
steps of the calls that nothing else can come between, with what the operating system answers as
arguments: whether the child could be created, whether a control line was taken, and how the child
exited.

A start call goes through its steps in order: the child is created, its exit is noticed, and the
status is returned once the readers of its output had time to finish. Readers push records one by
one at any time, but only those of the latest session are heard.

## Main definitions

* `ProcessEngine`: the state that all calls share
* `ProcessEngine.launch`, `ProcessEngine.recordExit`, `exitStatus`: the steps of a start call
* `ProcessEngine.requestStop`, `ProcessEngine.control`, `ProcessEngine.push`: the other calls
-/

set_option autoImplicit false

namespace ProxyControl

/-- The state that all calls of a process engine share. -/
structure ProcessEngine where
  /-- How many children were created. -/
  launches : Nat
  /-- Whether a child is owned that was not seen to exit. -/
  running : Bool
  /-- Whether the child's input is open. -/
  inputOpen : Bool
  /-- Whether a stop took effect on the child. -/
  stopRequested : Bool
  /-- The name of the session. -/
  name : String
  /-- The records of the latest session that are held. -/
  logs : HeldLog
  deriving DecidableEq, Repr

/-- The exit code of an engine that crashed. -/
def crashCode : Nat := 2

/-- The status of a session whose child exited with a code, or was killed, and was asked to stop or
not. -/
def exitStatus (code : Option Nat) (stopRequested : Bool) : Status :=
  if code = some crashCode ∧ stopRequested = false then .panicked else .exited

namespace ProcessEngine

/-- An engine that was never called. -/
def idle : ProcessEngine where
  launches := 0
  running := false
  inputOpen := false
  stopRequested := false
  name := ""
  logs := []

/-- A start call up to readiness, when creating a child gives an error or a name for the session. -/
def launch (created : Except IoError String) (e : ProcessEngine) : Launch × ProcessEngine :=
  if e.running then (.refused .alreadyRunning, e)
  else
    match created with
    | .error _ => (.refused .createFailed, e)
    | .ok name =>
      (.serving, {
        launches := e.launches + 1
        running := true
        inputOpen := true
        stopRequested := false
        name := name
        logs := [] })

/-- A start call when it has noticed that its child exited, and whether a stop took effect. -/
def recordExit (e : ProcessEngine) : Bool × ProcessEngine :=
  (e.stopRequested, { e with running := false, inputOpen := false })

/-- A request to stop, and whether a child is killed for it. -/
def requestStop (e : ProcessEngine) : Bool × ProcessEngine :=
  if e.running then (true, { e with stopRequested := true, inputOpen := false }) else (false, e)

/-- Whether a control line reaches the child, when the operating system takes it or not. -/
def control (taken : Bool) (e : ProcessEngine) : Bool := e.running && e.inputOpen && taken

/-- The control line for a mode. -/
def modeLine (constant : UInt32) : String := "mode " ++ toString constant.toNat

/-- The control line for inspection. -/
def mitmLine (on : Bool) : String := if on then "mitm 1" else "mitm 0"

/-- A switch of the mode: the constant that now applies, or zero. -/
def switchMode (taken : Bool) (constant : UInt32) (e : ProcessEngine) : UInt32 :=
  if e.control taken then constant else 0

/-- A record from a reader of the session that was launched as number `session`. -/
def push (session : Nat) (entry : LogEntry) (e : ProcessEngine) : ProcessEngine :=
  if session = e.launches then { e with logs := e.logs ++ [entry] } else e

/-- Records from such a reader, one after the other. -/
def pushAll (session : Nat) (entries : List LogEntry) (e : ProcessEngine) : ProcessEngine :=
  if session = e.launches then { e with logs := e.logs ++ entries } else e

/-- The name of the session. -/
def nickname (e : ProcessEngine) : String := if e.running then e.name else ""

/-- How many records are held. -/
def logLength (e : ProcessEngine) : Option Nat := if e.running then some e.logs.length else none

end ProcessEngine

end ProxyControl
