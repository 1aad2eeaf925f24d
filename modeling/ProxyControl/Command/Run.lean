import ProxyControl.Command.Control
import ProxyControl.Command.Invocation
import ProxyControl.Command.Workplace
import ProxyControl.Command.Console
import ProxyControl.Session.Host

/-!
# Sessions run for an operator

A session is run with a saved profile and the values given over it, in the mode and with the
inspection of the settings unless others are given. Its lines are printed as they come, and the
operator's lines are obeyed between. When the operator's input ends, the session is stopped. The
mode and the inspection that were asked for last are saved for the next run.

Time goes by in slices. In each slice the engine goes on, the log stream looks for records when its
pause is over, and the messages that have come are handled.

## Main definitions

* `Attended`: a session that is run for an operator
* `Attended.begin`: the session started, or the outcome where it cannot be
* `Attended.obey`, `Attended.endInput`, `Attended.tick`: what can happen to it
* `Attended.finish`: its outcome
* `Operator`, `Attended.attend`: an operator who waits for a line before typing
-/

set_option autoImplicit false

namespace ProxyControl

/-- A session that is run for an operator. -/
structure Attended (E : Type) where
  /-- The session and what runs beside it. -/
  host : Host E
  /-- Where the files are. -/
  workplace : Workplace
  /-- The settings at the start. -/
  settings : Settings
  /-- The time of day that a line begins with, when it has the given time or none. -/
  clock : Option Timestamp → String
  /-- Whether the session was asked to stop. -/
  stopSent : Bool
  /-- Whether the session ended in a way that asks for action. -/
  hasFailed : Bool
  /-- Whether the session was given up because it did not stop. -/
  isAbandoned : Bool
  console : Console

namespace Attended

variable {E : Type}

/-- How many slices a session is given to stop. -/
def stopSlices : Nat := 200

/-- The options of a session. -/
def optionsOf (a : RunArguments) (s : Settings) (routeList : String) : SessionOptions where
  logLevel := a.logLevel.getD s.logLevel
  dnsCacheSize := s.dnsCacheSize
  routeList := routeList
  logCapacity := s.logCapacity

/-- A session started with an engine, or the outcome where it cannot be started. -/
def begin (engine : Engine E) (state : E) (clock : Option Timestamp → String) (a : RunArguments)
    (w : Workplace) (d : Disk) : Except (Outcome × Disk) (Attended E) :=
  let ((settings, warnings), d) := loadSettings w.storeFile d
  let printed := Console.warnings warnings
  match ProfileStore.openOn w.backend d with
  | (.error e, d) => .error (.failure printed (.store e), d)
  | (.ok store, d) =>
    let (routeList, d) := w.routeList settings d
    let profile := a.profile (store.get? a.server)
    let h := Host.idle engine state (.idle store (optionsOf a settings routeList)) d
    -- asked for before the start, so that readiness finds it
    let h := (h.setMitm (a.mitm || settings.mitm)).2
    match h.start profile (some (a.mode.getD settings.mode)) with
    | (.error e, h) => .error (.failure printed (.session e), h.disk)
    | (.ok .alreadyRunning, h) =>
      .error (⟨1, printed.andThen (.errors ["A session is already running."])⟩, h.disk)
    | (.ok .launched, h) =>
      .ok ⟨h, w, settings, clock, false, false, false, printed⟩

/-- The session. -/
def session (a : Attended E) : Session := a.host.session

/-- Whether the session is over. -/
def isOver (a : Attended E) : Bool := a.isAbandoned || a.session.phase = .stopped

/-- The session with more printed. -/
def say (printed : Console) (a : Attended E) : Attended E :=
  { a with console := a.console.andThen printed }

/-- A line of the display as it is printed. -/
def lineText (clock : Option Timestamp → String) : LogLine → String
  | .engine time text => clock time ++ " " ++ text
  | .notice text => clock none ++ " * " ++ text

/-- What an event makes of the session. -/
def report (e : SessionEvent) (a : Attended E) : Attended E :=
  match e with
  | .line l => a.say (.line (lineText a.clock l))
  | .ended status => { a with hasFailed := status.conditions.isActionable }
  | .changed _ _ => a
  | .started _ => a

/-- The messages that have come handled, and what they tell printed. -/
def poll (a : Attended E) : Attended E :=
  let h := a.host.handle.flow
  h.session.events.foldl (fun a e => a.report e)
    { a with host := h.mapSession fun s => { s with events := [] } }

/-- The session asked to stop, if it is running. -/
def requestStop (a : Attended E) : Attended E :=
  match a.host.stop with
  | (.ok (), h) => { a with host := h, stopSent := true }
  | (.error _, h) => { a with host := h }

/-- How the session is, in one line. -/
def statusText (s : Session) : String :=
  "state " ++ s.phase.name ++ " | mode " ++ s.pendingMode.name ++ " | mitm " ++
    toString s.pendingMitm ++ " | upstream " ++ s.nickname.getD "-"

/-- A command of the operator obeyed. -/
def perform (a : Attended E) : Control → Attended E
  | .mode m =>
    let (outcome, h) := a.host.switchMode m
    { a with host := h }.say (.line ("mode " ++ m.name ++ ": " ++ outcome.name))
  | .mitm on =>
    let (outcome, h) := a.host.setMitm on
    { a with host := h }.say
      (.line ("mitm " ++ (if on then "on" else "off") ++ ": " ++ outcome.name))
  | .status => a.say (.line (statusText a.session))
  | .stop => a.requestStop

/-- A line of the operator obeyed; a blank one means nothing. -/
def obey (line : String) (a : Attended E) : Attended E :=
  if Text.isBlankText line then a
  else
    match Control.parse line with
    | .ok c => a.perform c
    | .error message => a.say (.errors [message])

/-- One slice of time. -/
def wait (a : Attended E) : Attended E :=
  { a with host := a.host.tick }

/-- One slice of time, and the messages that have come then. -/
def tick (a : Attended E) : Attended E := a.wait.poll

/-- At most so many slices of time, until the session has stopped; what there is to tell is told
later. -/
def awaitStop : Nat → Attended E → Attended E
  | 0, a => a
  | n + 1, a =>
    let a := { a with host := a.host.handle }
    if a.session.phase = .stopped then a else awaitStop n a.wait

/-- The session after the operator's input has ended: it is asked to stop and given time to. -/
def endInput (a : Attended E) : Attended E :=
  let a := if a.stopSent then a else a.requestStop
  -- a session that does not run yet is asked again in the next slice
  if a.stopSent = false then a
  else
    let a := a.awaitStop stopSlices
    if a.session.phase = .stopped then a
    else { a with isAbandoned := true }.say (.errors ["Engine did not stop within 10s"])

/-- The outcome of a session that is over. -/
def finish (a : Attended E) : Outcome × Disk :=
  if a.isAbandoned then (⟨1, a.console⟩, a.host.disk)
  else
    let mode := a.session.pendingMode
    let mitm := a.session.pendingMitm
    (⟨if a.hasFailed then 1 else 0, a.console⟩,
      -- what the operator asked for last is kept for the next session
      if a.settings.mode = mode ∧ a.settings.mitm = mitm then a.host.disk
      else
        (saveSettings a.workplace.storeFile { a.settings with mode := mode, mitm := mitm }
          a.host.disk).2)

end Attended

/-- An operator who waits for a line before typing. -/
structure Operator where
  /-- What the line holds. -/
  awaited : String
  /-- The lines that are typed, up to one that asks to stop. -/
  controls : List String
  /-- Whether the input ends then. -/
  closesInput : Bool
  deriving DecidableEq, Repr

namespace Attended

variable {E : Type}

/-- Whether a printed line holds some text. -/
def hasShown (text : String) (a : Attended E) : Bool :=
  a.console.out.any fun line => Text.hasPiece text.toList line.toList

/-- The lines of an operator obeyed in turn, up to one that asks to stop. -/
def obeyAll (controls : List String) (a : Attended E) : Attended E :=
  controls.foldl (fun a line => if a.stopSent || a.isOver then a else (a.obey line).poll) a

/-- At most so many slices of time, until the session is over. -/
def linger (inputEnded : Bool) : Nat → Attended E → Attended E
  | 0, a => a
  | n + 1, a =>
    if a.isOver then a else linger inputEnded n (if inputEnded then a.endInput else a).tick

/-- A session with an operator until it is over, for at most so many slices of time. -/
def attend (o : Operator) : Nat → Attended E → Attended E
  | 0, a => a
  | n + 1, a =>
    if a.isOver then a
    else if a.hasShown o.awaited then (a.obeyAll o.controls).linger o.closesInput n
    else attend o n a.tick

end Attended

end ProxyControl
