import ProxyControl.Session.Basic

/-!
# Messages of a session

Messages are handled in the order in which they came, and those of an earlier generation are left
aside. When the start call has returned, the log stream is stopped and waited for, and all that it
sent is handled before the session ends; so no record comes after the notice that logging stopped.

## Main definitions

* `Session.onReady`, `Session.onLog`, `Session.finish`: what a message does
* `Session.receive`, `Session.conclude`: a message, and the end of a session after its log stream
* `Session.handleAll`: a number of messages, in order
* `Session.poll`, `Session.waitFor`: the messages that are there
-/

set_option autoImplicit false

namespace ProxyControl.Session

/-- The words of the notice that the engine is serving. -/
def startedNotice (nickname : String) : String :=
  if nickname = "" then "proxy started" else "proxy started: " ++ nickname

/-- Readiness, when the engine goes by a name: the session is running, its log stream opens and the
engine is told the mode that was asked for, and inspection after a delay. -/
def onReady (name : String) (generation : Nat) (s : Session) : Session :=
  if generation ≠ s.generation ∨ s.phase ≠ .starting then s
  else
    let nickname := String.ofList (name.toList.take maxNicknameLength)
    let s := { s with readySeen := true }.moveTo .running
    let s := (s.notify (startedNotice nickname)).emit (.started nickname)
    let s := { s with nickname := some nickname, holdsStream := true, live := some generation }
    -- what was asked for before readiness was only written down
    let s := (s.request (.openStream generation)).request (.switchMode s.pendingMode.constant)
    if s.pendingMitm then s.request (.delayMitm generation) else s

/-- A record of the log stream. -/
def onLog (generation : Nat) (record : LogRecord) (s : Session) : Session :=
  if generation = s.generation then s.append (.ofRecord record) else s

/-- The status that a session ends with: one that was never ready could not be created, unless the
status says so already or says that there was a session before. -/
def finalStatus (readySeen : Bool) (status : Status) : Status :=
  if !readySeen && !status.conditions.createFailed && !status.conditions.alreadyRunning then
    status.both .createFailed
  else status

/-- The end of the session, after its log stream. -/
def finish (status : Status) (s : Session) : Session :=
  let status := finalStatus s.readySeen status
  let s := { s with holdsThread := false }.notifyStatus status
  let s := { s with nickname := none, lastStatus := some status }
  (s.moveTo .stopped).emit (.ended status)

/-- One message, when no log stream is to be waited for. -/
def handleOne (name : String) (s : Session) : Message → Session
  | .ready generation => s.onReady name generation
  | .log generation record => s.onLog generation record
  | .exited generation status =>
    -- a delayed switch that is due from here on comes too late
    if generation = s.generation then { s with live := none }.finish status else s

/-- The log stream given up: it is asked to stop and waited for. -/
def closeStream (s : Session) : Session :=
  let s := { s with live := none, holdsStream := false }
  (s.request .stopStream).request .joinStream

/-- The end of a session whose log stream was given up and sent nothing that is not handled. -/
def conclude (status : Status) (s : Session) : Session :=
  (s.notify "logging stopped").finish status

/-- One message. The end of a session that holds a log stream gives the stream up; with the status
it is left to handle all messages that are there then, before the session ends. -/
def receive (name : String) (m : Message) (s : Session) : Option Status × Session :=
  match m with
  | .exited generation status =>
    if generation = s.generation ∧ s.holdsStream = true then (some status, s.closeStream)
    else (none, s.handleOne name m)
  | _ => (none, s.handleOne name m)

/-- The given messages in order, when the engine goes by a name. The log stream, if it is waited
for on the way, sends the messages of `tail` until it has ended. -/
def handleAll (name : String) (tail : List Message) : List Message → Session → Session
  | [], s => s
  | m :: rest, s =>
    match s.receive name m with
    -- a second end among these finds the stream given up already
    | (some status, s) => ((rest ++ tail).foldl (handleOne name) s).conclude status
    | (none, s) => handleAll name tail rest s

/-- All messages that are there. -/
def handleQueue (name : String) (tail : List Message) (s : Session) : Session :=
  handleAll name tail s.queue { s with queue := [] }

/-- All messages that are there handled, and the events since the last time. -/
def poll (name : String) (tail : List Message) (s : Session) : List SessionEvent × Session :=
  let s := s.handleQueue name tail
  (s.events, { s with events := [] })

/-- Messages handled until the session is in a phase: those that are there, and then those that
come while it waits, which are the elements of `arrivals` in turn. -/
def waitFor (name : String) (tail : List Message) (target : Phase) :
    List (List Message) → Session → Bool × Session
  | arrivals, s =>
    let s := s.handleQueue name tail
    if s.phase = target then (true, s)
    else
      match arrivals with
      | [] => (false, s)
      | messages :: arrivals => waitFor name tail target arrivals { s with queue := messages }

end ProxyControl.Session
