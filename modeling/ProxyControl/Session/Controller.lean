import ProxyControl.Profile.Validation
import ProxyControl.Session.Messages
import ProxyControl.Store.Profiles

/-!
# The controller of a session

The controller owns the session and the saved profiles. A start is refused where the profile cannot
be used, and does nothing but say so where there is a session already; otherwise the profile is
saved and the engine is called, whether or not saving succeeded. The mode and inspection can be
asked for at any time, and the latest request counts.

## Main definitions

* `Controller`: the session and the saved profiles
* `Controller.start`: a session started
* `Session.stop`, `Session.switchMode`, `Session.setMitm`: the other operations
* `Session.farewell`: what is asked for when the controller goes away
-/

set_option autoImplicit false

namespace ProxyControl

/-- The session and the saved profiles. -/
structure Controller (W : Type) where
  session : Session
  /-- The saved profiles. -/
  store : ProfileStore W

namespace Session

/-- The parameters of a profile's start call. -/
def startParams (s : Session) (p : Profile) : StartParams :=
  .ofProfile p s.options.logLevel s.options.dnsCacheSize s.options.routeList

/-- The engine called with a profile, unless its thread cannot be created. -/
def launch (p : Profile) (threadError : Option IoError) (s : Session) :
    Except SessionError StartOutcome × Session :=
  let s := s.moveTo .starting
  -- counted even where no thread can be created: a generation is never used twice
  let s := { s with generation := s.generation + 1, readySeen := false, nickname := none }
  match threadError with
  | some e => (.error (.spawn e), s.moveTo .stopped)
  | none =>
    (.ok .launched, { s with holdsThread := true }.request (.launch s.generation (s.startParams p)))

/-- A running session asked to stop. -/
def stop (s : Session) : Except SessionError Unit × Session :=
  if s.phase ≠ .running then (.error (.invalidTransition "stop" s.phase), s)
  else
    let s := { s.moveTo .stopping with live := none }.request .stopEngine
    (.ok (), if s.holdsStream then s.request .stopStream else s)

/-- A mode asked for: now where the session is running, else for the next session. -/
def switchMode (m : Mode) (s : Session) : RequestOutcome × Session :=
  let s := { s with pendingMode := m }
  if s.phase ≠ .running then (.queued, s) else (.applied, s.request (.switchMode m.constant))

/-- Inspection asked for or against: now where the session is running, which overrides a delayed
switch, else for the next session. -/
def setMitm (on : Bool) (s : Session) : RequestOutcome × Session :=
  let s := { s with pendingMitm := on }
  if s.phase ≠ .running then (.queued, s)
  else (.applied, { s with live := none }.request (.setMitm on))

/-- What is asked for when the controller goes away. -/
def farewell (s : Session) : Session :=
  let s := { s with live := none }
  let s := if s.holdsStream then s.request .stopStream else s
  if s.phase = .running ∨ s.phase = .stopping then s.request .stopEngine else s

end Session

namespace Controller

variable {W : Type}

/-- A controller that was never used. -/
def idle (store : ProfileStore W) (options : SessionOptions) : Controller W :=
  ⟨.idle options, store⟩

/-- A session started with a profile, in a mode if one is given. -/
def start (p : Profile) (mode : Option Mode) (threadError : Option IoError) (c : Controller W)
    (w : W) : Except SessionError StartOutcome × Controller W × W :=
  match p.validate with
  | .error e => (.error (.invalidProfile e), c, w)
  | .ok () =>
    if c.session.phase ≠ .stopped then
      (.ok .alreadyRunning, { c with session := c.session.notifyStatus .alreadyRunning }, w)
    else
      let s := { c.session with pendingMode := mode.getD c.session.pendingMode }
      -- a profile that cannot be saved is used all the same
      let (_, store, w) := c.store.save p w
      let (outcome, s) := s.launch p threadError
      (outcome, ⟨s, store⟩, w)

end Controller

end ProxyControl
