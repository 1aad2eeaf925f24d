import ProxyControl.Engine.Contract

/-!
# Engines that follow a script

For rehearsals an engine can follow a script that tells for each start call what becomes of it. It
refuses nothing, records the calls, and serves a session until it is asked to stop or its end is
brought about from outside.

## Main definitions

* `SessionScript`: what becomes of a start call
* `ScriptedEngine`: the state
* `ScriptedEngine.engine`: the calls
-/

set_option autoImplicit false

namespace ProxyControl

/-- What becomes of a start call. -/
structure SessionScript where
  /-- Whether readiness is fired. -/
  isReady : Bool
  /-- Whether the call returns at once. -/
  isImmediate : Bool
  /-- The status that it returns. -/
  status : Status
  nickname : String
  /-- The records that are there from the start. -/
  logs : HeldLog
  /-- Whether the log is closed all the time. -/
  isLogClosed : Bool
  deriving DecidableEq, Repr

/-- A session that is served until it is asked to stop. -/
def SessionScript.plain : SessionScript := ⟨true, false, .exited, "", [], false⟩

/-- The state of an engine that follows a script. -/
structure ScriptedEngine where
  /-- What becomes of the start calls to come; of later ones, the plain session. -/
  scripts : List SessionScript
  /-- The script of the latest start call. -/
  current : SessionScript
  running : Bool
  /-- The status of the session that ends, if one does. -/
  ending : Option Status
  /-- The records that are held. -/
  logs : HeldLog
  /-- How many start calls there were. -/
  startCalls : Nat
  /-- The constants of all switches, the oldest first. -/
  modeCalls : List UInt32
  /-- The settings of inspection, the oldest first. -/
  mitmCalls : List Bool
  deriving DecidableEq, Repr

namespace ScriptedEngine

/-- An engine that was never called. -/
def ofScripts (scripts : List SessionScript) : ScriptedEngine :=
  ⟨scripts, .plain, false, none, [], 0, [], []⟩

/-- A start call up to readiness. -/
def start (e : ScriptedEngine) : Launch × ScriptedEngine :=
  let script := e.scripts.headD .plain
  (⟨script.isReady, if script.isImmediate then some script.status else none⟩,
    { e with
      scripts := e.scripts.tail
      current := script
      running := !script.isImmediate
      ending := none
      logs := if script.isImmediate then [] else script.logs
      startCalls := e.startCalls + 1 })

/-- The session brought to its end, with a status or with that of its script. -/
def requestEnd (status : Option Status) (e : ScriptedEngine) : ScriptedEngine :=
  if e.running && e.ending.isNone then
    { e with ending := some (status.getD e.current.status) }
  else e

/-- A record pushed while a session is served. -/
def push (entry : LogEntry) (e : ScriptedEngine) : ScriptedEngine :=
  if e.running then { e with logs := e.logs ++ [entry] } else e

/-- The calls of the engine. -/
def engine : Engine ScriptedEngine where
  start _ e disk :=
    let (launch, e) := e.start
    (launch, e, disk)
  finish? e := e.ending.map fun s => (s, { e with running := false, ending := none, logs := [] })
  stop := requestEnd none
  switchMode constant e := (constant, { e with modeCalls := e.modeCalls ++ [constant] })
  setMitm on e := { e with mitmCalls := e.mitmCalls ++ [on] }
  nickname e := e.current.nickname
  logLength e := if e.running && !e.current.isLogClosed then some e.logs.length else none
  logRead index e := e.logs.read index
  logDeleteSince index e := { e with logs := e.logs.dropThrough index }
  pass _ e := e

end ScriptedEngine

end ProxyControl
