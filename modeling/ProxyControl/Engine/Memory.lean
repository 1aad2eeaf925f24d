import ProxyControl.Engine.Contract
import ProxyControl.Mode

/-!
# The engine in memory

This engine serves nobody: it keeps the state of a session and a record of the calls, for runs
without a real engine. A session ends on a request, of which only the first one counts. Each
function is one step that no other call can come between; a start call has two, before it blocks
and after.

## Main definitions

* `MemoryEngine`: the state
* `MemoryEngine.start`, `MemoryEngine.finish?`: the two steps of a start call
* `MemoryEngine.requestEnd`, `MemoryEngine.push`, `MemoryEngine.switchMode`,
  `MemoryEngine.setMitm`: the other calls
* `MemoryEngine.engine`: the engine
-/

set_option autoImplicit false

namespace ProxyControl

/-- Why a session is to end. -/
inductive Ending where
  | stopped
  /-- The engine stops serving by itself. -/
  | exited
  /-- The engine crashes. -/
  | panicked
  deriving DecidableEq, Repr

/-- The status of a session that ended. -/
def Ending.status : Ending → Status
  | .panicked => .panicked
  | _ => .exited

/-- The state of the engine in memory. -/
structure MemoryEngine where
  running : Bool
  /-- The first request to end the session. -/
  ending : Option Ending
  /-- Whether start calls fail before readiness. -/
  failCreation : Bool
  /-- How many start calls there were. -/
  startCalls : Nat
  server : String
  /-- The records that are held. -/
  logs : HeldLog
  /-- The constant of the mode. -/
  mode : Option UInt32
  mitm : Bool
  /-- The constants of all switches, the oldest first. -/
  modeCalls : List UInt32
  /-- The settings of inspection, the oldest first. -/
  mitmCalls : List Bool
  deriving DecidableEq, Repr

namespace MemoryEngine

/-- An engine that was never called. -/
def idle : MemoryEngine where
  running := false
  ending := none
  failCreation := false
  startCalls := 0
  server := ""
  logs := []
  mode := none
  mitm := false
  modeCalls := []
  mitmCalls := []

/-- The first record of a session. -/
def greeting (p : StartParams) : String :=
  "listening on " ++ p.localAddr ++ " (upstream " ++ p.server ++ ")"

/-- A start call up to readiness: it is refused while a session is served or where creation
fails. -/
def start (now : Nat) (p : StartParams) (e : MemoryEngine) : Launch × MemoryEngine :=
  let e := { e with startCalls := e.startCalls + 1 }
  if e.running then (.refused .alreadyRunning, e)
  else if e.failCreation then (.refused .createFailed, e)
  else
    (.serving, { e with
      running := true
      ending := none
      server := p.server
      mode := some Mode.iplist.constant
      mitm := false
      logs := [⟨now, greeting p⟩] })

/-- A start call after its session was asked to end. -/
def finish? (e : MemoryEngine) : Option (Status × MemoryEngine) :=
  if e.running then
    e.ending.map fun ending =>
      (ending.status, { e with running := false, ending := none, mode := none, logs := [] })
  else none

/-- A request to end the session; it counts if it is the first one. -/
def requestEnd (ending : Ending) (e : MemoryEngine) : MemoryEngine :=
  if e.running && e.ending.isNone then { e with ending := some ending } else e

/-- A record pushed while a session is served. -/
def push (entry : LogEntry) (e : MemoryEngine) : MemoryEngine :=
  if e.running then { e with logs := e.logs ++ [entry] } else e

/-- A switch of the mode, and the constant that now applies. -/
def switchMode (constant : UInt32) (e : MemoryEngine) : UInt32 × MemoryEngine :=
  let e := { e with modeCalls := e.modeCalls ++ [constant] }
  if e.running then (constant, { e with mode := some constant }) else (0, e)

/-- Inspection switched on or off. -/
def setMitm (on : Bool) (e : MemoryEngine) : MemoryEngine :=
  let e := { e with mitmCalls := e.mitmCalls ++ [on] }
  if e.running then { e with mitm := on } else e

/-- Whether start calls fail from now on. -/
def setFailCreation (fails : Bool) (e : MemoryEngine) : MemoryEngine :=
  { e with failCreation := fails }

/-- The name of the server. -/
def nickname (e : MemoryEngine) : String := if e.running then "mem/" ++ e.server else ""

/-- How many records are held. -/
def logLength (e : MemoryEngine) : Option Nat := if e.running then some e.logs.length else none

/-- The mode that applies, where its constant is that of one. -/
def mode? (e : MemoryEngine) : Option Mode := e.mode.bind Mode.ofConstant?

/-- The engine in memory, whose first record of a session has the stamp `now`. -/
def engine (now : Nat) : Engine MemoryEngine where
  start params e disk :=
    let (launch, e) := e.start now params
    (launch, e, disk)
  finish? := finish?
  stop := requestEnd .stopped
  switchMode := switchMode
  setMitm := setMitm
  nickname := nickname
  logLength := logLength
  logRead index e := e.logs.read index
  logDeleteSince index e := { e with logs := e.logs.dropThrough index }
  pass _ e := e

end MemoryEngine

end ProxyControl
