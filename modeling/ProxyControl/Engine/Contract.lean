import ProxyControl.Engine.Params
import ProxyControl.Files.Disk
import ProxyControl.Log.Held
import ProxyControl.Status

/-!
# Engines

An engine serves one session at a time. A start call fires readiness at most once, and blocks until
the session has ended or returns at once when it is refused. All other calls are answered at any
time, also when no session is served.

## Main definitions

* `Launch`: what a start call does at once
* `Engine`: the calls of an engine with states of a type
-/

set_option autoImplicit false

namespace ProxyControl

/-- What a start call does at once. -/
structure Launch where
  /-- Whether readiness is fired. -/
  isReady : Bool
  /-- The status that is returned, or nothing while the call blocks. -/
  returned : Option Status
  deriving DecidableEq, Repr

namespace Launch

/-- A call that was refused. -/
def refused (s : Status) : Launch := ⟨false, some s⟩

/-- A call that serves a session. -/
def serving : Launch := ⟨true, none⟩

end Launch

/-- The calls of an engine with states of type `E`. -/
structure Engine (E : Type) where
  /-- The start of a start call, which may leave files for the session on the disk. -/
  start : StartParams → E → Disk → Launch × E × Disk
  /-- The end of a blocked start call, once its session has ended. -/
  finish? : E → Option (Status × E)
  /-- A request to stop serving. -/
  stop : E → E
  /-- A switch to the mode with a constant, and the constant that now applies, or zero. -/
  switchMode : UInt32 → E → UInt32 × E
  /-- Inspection switched on or off. -/
  setMitm : Bool → E → E
  /-- The name of the server, or nothing when no session is served. -/
  nickname : E → String
  /-- How many records are held, or nothing when no session is served. -/
  logLength : E → Option Nat
  /-- The record at an index. -/
  logRead : Nat → E → LogEntry
  /-- The records up to and including an index dropped. -/
  logDeleteSince : Nat → E → E
  /-- What happens by itself up to a time, in milliseconds. -/
  pass : Nat → E → E

end ProxyControl
