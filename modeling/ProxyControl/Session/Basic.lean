import ProxyControl.Engine.Params
import ProxyControl.Error
import ProxyControl.Log.Buffer
import ProxyControl.Mode
import ProxyControl.Phase
import ProxyControl.Status

/-!
# What a session is about

A session belongs to one start call of the engine. Sessions are numbered by generations, and every
message from the engine's side tells the generation that it belongs to. The session answers its
caller with outcomes and events, and asks the world around it to act by requests.

## Main definitions

* `Session`: the state of the session and of what it shows
* `Message`: what comes from the engine's side
* `SessionEvent`: what the caller learns
* `Request`: what the world around is asked to do
-/

set_option autoImplicit false

namespace ProxyControl

/-- What is fixed for all sessions of a controller. -/
structure SessionOptions where
  logLevel : LogLevel
  /-- How many names the engine's resolver remembers. -/
  dnsCacheSize : UInt32
  routeList : String
  logCapacity : Nat
  deriving DecidableEq, Repr

/-- The answer to a start that was not refused. -/
inductive StartOutcome where
  /-- The engine was called. -/
  | launched
  | alreadyRunning
  deriving DecidableEq, Repr

/-- The answer to a change of the mode or of inspection. -/
inductive RequestOutcome where
  /-- The engine was told. -/
  | applied
  | queued
  deriving DecidableEq, Repr

/-- The name of an answer. -/
def RequestOutcome.name : RequestOutcome → String
  | .applied => "Applied"
  | .queued => "Queued"

/-- What the caller learns. -/
inductive SessionEvent where
  | changed (before after : Phase)
  /-- The engine is serving, under this name. -/
  | started (nickname : String)
  | line (l : LogLine)
  /-- The start call returned with this status. -/
  | ended (status : Status)
  deriving DecidableEq, Repr

/-- What comes from the engine's side. -/
inductive Message where
  /-- The engine fired readiness. -/
  | ready (generation : Nat)
  | exited (generation : Nat) (status : Status)
  /-- The log stream hands on a record. -/
  | log (generation : Nat) (record : LogRecord)
  deriving DecidableEq, Repr

/-- What the world around a session is asked to do. -/
inductive Request where
  /-- Make the start call of a generation. -/
  | launch (generation : Nat) (params : StartParams)
  | stopEngine
  | switchMode (constant : UInt32)
  | setMitm (on : Bool)
  | openStream (generation : Nat)
  | stopStream
  /-- Wait until the log stream has ended. -/
  | joinStream
  /-- Switch inspection on after a delay, unless the session of the generation has ended then. -/
  | delayMitm (generation : Nat)
  deriving DecidableEq, Repr

/-- The state of the session and of what it shows. -/
structure Session where
  options : SessionOptions
  phase : Phase
  /-- The mode that was asked for last. -/
  pendingMode : Mode
  /-- Whether inspection was asked for last. -/
  pendingMitm : Bool
  /-- The number of the latest session. -/
  generation : Nat
  /-- Whether the latest session was ready. -/
  readySeen : Bool
  /-- The name under which the engine is serving. -/
  nickname : Option String
  /-- The status of the session that ended last. -/
  lastStatus : Option Status
  /-- Messages that were not handled yet. -/
  queue : List Message
  /-- Whether the thread of a start call is held. -/
  holdsThread : Bool
  /-- Whether a log stream is held. -/
  holdsStream : Bool
  /-- The generation whose delayed switch of inspection may still happen. -/
  live : Option Nat
  logs : LogBuffer
  /-- What the caller did not learn yet. -/
  events : List SessionEvent
  /-- What the world around was asked to do and did not take yet. -/
  requests : List Request
  deriving DecidableEq, Repr

/-- The longest nickname that is kept. -/
def maxNicknameLength : Nat := 31

namespace Session

/-- A session that was never started. -/
def idle (options : SessionOptions) : Session where
  options := options
  phase := .stopped
  pendingMode := .iplist
  pendingMitm := false
  generation := 0
  readySeen := false
  nickname := none
  lastStatus := none
  queue := []
  holdsThread := false
  holdsStream := false
  live := none
  logs := .ofCapacity options.logCapacity
  events := []
  requests := []

/-- The session with one more event. -/
def emit (e : SessionEvent) (s : Session) : Session := { s with events := s.events ++ [e] }

/-- The session with one more request. -/
def request (r : Request) (s : Session) : Session := { s with requests := s.requests ++ [r] }

/-- The session in another phase. -/
def moveTo (p : Phase) (s : Session) : Session :=
  { s with phase := p }.emit (.changed s.phase p)

/-- The session with a line offered to the display; a line that is kept is an event. -/
def append (line : LogLine) (s : Session) : Session :=
  match s.logs.push line with
  | (logs, true) => { s with logs := logs }.emit (.line line)
  | (_, false) => s

/-- The session with a notice. -/
def notify (text : String) (s : Session) : Session := s.append (.notice text)

/-- The session with the notices of a status. -/
def notifyStatus (status : Status) (s : Session) : Session :=
  status.conditions.messages.foldl (fun s text => s.notify text) s

/-- The session with a message added to those not handled yet. -/
def enqueue (m : Message) (s : Session) : Session := { s with queue := s.queue ++ [m] }

/-- The session as it is shown for inspection. -/
def inspect (s : Session) : String :=
  "SessionController \x7b state: " ++ s.phase.inspect ++
    ", generation: " ++ toString s.generation ++
    ", pending_mode: " ++ s.pendingMode.inspect ++
    ", pending_mitm: " ++ toString s.pendingMitm ++
    ", log_lines: " ++ toString s.logs.size ++ ", .. \x7d"

end Session

end ProxyControl
