import ProxyControl.Engine.Contract
import ProxyControl.Log.Stream
import ProxyControl.Session.Controller

/-!
# Hosts of a session

A host runs the controller, the engine, the log stream and the delayed switch of inspection
together, one thing at a time: whatever can happen happens before the controller handles its
messages.

## Main definitions

* `Host`: the controller and what runs beside it
* `Host.settle`: everything that can happen by itself
* `Host.poll`, `Host.waitFor`: messages handled
* `Host.tick`: what happens by itself as time goes by
-/

set_option autoImplicit false

namespace ProxyControl

/-- A log stream that runs. -/
structure RunningStream where
  generation : Nat
  /-- Where it is. -/
  point : StreamPoint
  /-- Whether it was asked to stop. -/
  stopRequested : Bool
  deriving DecidableEq, Repr

/-- A controller and what runs beside it. -/
structure Host (E : Type) where
  engine : Engine E
  state : E
  controller : Controller Disk
  /-- The disk of the saved profiles. -/
  disk : Disk
  stream : Option RunningStream
  /-- The generation whose start call has not returned. -/
  inFlight : Option Nat
  /-- The generations with a delayed switch of inspection that has not happened, and the times when
  their delays are over. -/
  delayed : List (Nat × Nat)
  /-- The time, in milliseconds. -/
  now : Nat
  /-- The parameters of all start calls, the oldest first. -/
  launches : List StartParams

namespace Host

variable {E : Type}

/-- How long a switch of inspection is delayed after readiness, in milliseconds. -/
def mitmDelay : Nat := 2000

/-- A host at rest. -/
def idle (engine : Engine E) (state : E) (controller : Controller Disk) (disk : Disk) : Host E where
  engine := engine
  state := state
  controller := controller
  disk := disk
  stream := none
  inFlight := none
  delayed := []
  now := 0
  launches := []

/-- The session. -/
def session (h : Host E) : Session := h.controller.session

/-- The host with its session changed. -/
def mapSession (f : Session → Session) (h : Host E) : Host E :=
  { h with controller := { h.controller with session := f h.controller.session } }

/-- The host with its engine changed. -/
def mapEngine (f : E → E) (h : Host E) : Host E := { h with state := f h.state }

/-- What the log stream calls. -/
def streamHost : StreamHost (Host E) where
  stopRequested h := ((h.stream.map (·.stopRequested)).getD true, h)
  length h := (h.engine.logLength h.state, h)
  read index h := (h.engine.logRead index h.state, h)
  deleteSince index h := h.mapEngine (h.engine.logDeleteSince index)
  offer record h :=
    (true, h.mapSession fun s =>
      s.enqueue (.log ((h.stream.map (·.generation)).getD 0) record))

/-- One round of the log stream. -/
def pump (h : Host E) : Host E :=
  match h.stream with
  | none => h
  | some stream =>
    -- a round takes two steps for each record, and a few before and after them
    let fuel := 3 * (h.engine.logLength h.state).getD 0 + 10
    let (point, h) := StreamPoint.round streamHost 0 fuel stream.point h
    { h with stream := some { stream with point := point } }

/-- The start call that returns, if its session has ended. -/
def collect (h : Host E) : Host E :=
  match h.inFlight, h.engine.finish? h.state with
  | some generation, some (status, state) =>
    { h with state := state, inFlight := none }.mapSession
      fun s => s.enqueue (.exited generation status)
  | _, _ => h

/-- Everything that can happen by itself. -/
def settle (h : Host E) : Host E := h.pump.collect

/-- One request carried out. -/
def perform (h : Host E) : Request → Host E
  | .launch generation params =>
    let (launch, state, disk) := h.engine.start params h.state h.disk
    let h := { h with
      state := state
      disk := disk
      launches := h.launches ++ [params]
      inFlight := if launch.returned.isNone then some generation else none }
    -- readiness comes before the end, even where the call returns at once
    let h := if launch.isReady then h.mapSession fun s => s.enqueue (.ready generation) else h
    match launch.returned with
    | some status => h.mapSession fun s => s.enqueue (.exited generation status)
    | none => h
  | .stopEngine => (h.mapEngine h.engine.stop).collect
  | .switchMode constant => h.mapEngine fun e => (h.engine.switchMode constant e).2
  | .setMitm on => h.mapEngine (h.engine.setMitm on)
  | .openStream generation => { h with stream := some ⟨generation, .initial, false⟩ }
  | .stopStream => { h with stream := h.stream.map fun s => { s with stopRequested := true } }
  | .joinStream => { h with stream := none }
  | .delayMitm generation =>
    { h with delayed := h.delayed ++ [(generation, h.now + mitmDelay)] }

/-- All requests of the session carried out. -/
def performAll (h : Host E) : Host E :=
  let requests := h.session.requests
  requests.foldl perform (h.mapSession fun s => { s with requests := [] })

/-- The delayed switches of inspection whose delay is over at the time `time`: one happens if its
session is live. -/
def endDelay (time : Nat) (h : Host E) : Host E :=
  let (due, left) := h.delayed.partition fun d => decide (d.2 ≤ time)
  let isLive := due.any fun d => h.session.live = some d.1
  let h := { h with delayed := left }
  if isLive then h.mapEngine (h.engine.setMitm true) else h

/-- The messages that are there handled, and what the session asks for carried out. -/
def handle (h : Host E) : Host E :=
  (h.mapSession fun s => s.handleQueue (h.engine.nickname h.state) []).performAll

/-- Messages handled until no more come by themselves, where delays of inspection are over or
not. -/
def advance (delayOver : Bool) (h : Host E) : Host E :=
  let h := h.settle.handle
  -- readiness opens the log stream and begins a delay, so there is more to handle
  let h := if delayOver then h.endDelay (h.now + mitmDelay) else h
  h.settle.handle

/-- Messages handled until no more come by themselves, and the events since the last time. -/
def poll (delayOver : Bool) (h : Host E) : List SessionEvent × Host E :=
  let h := h.advance delayOver
  (h.session.events, h.mapSession fun s => { s with events := [] })

/-- Messages handled until no more come by themselves, and whether the session is in a phase. -/
def waitFor (delayOver : Bool) (target : Phase) (h : Host E) : Bool × Host E :=
  let h := h.advance delayOver
  (decide (h.session.phase = target), h)

/-- How many slices of time make up a pause of the log stream. -/
def pauseSlices : Nat := 4

/-- The host with its log stream brought as far as it gets without waiting. -/
def flow (h : Host E) : Host E :=
  match h.stream with
  | none => h
  | some stream =>
    let fuel := 3 * (h.engine.logLength h.state).getD 0 + 10
    let (point, h) := StreamPoint.runWhile streamHost pauseSlices
      (fun p => !p.isResting && !p.isEnded) fuel stream.point h
    { h with stream := some { stream with point := point } }

/-- The host with one slice of time waited by its log stream. -/
def rest (h : Host E) : Host E :=
  match h.stream with
  | none => h
  | some stream =>
    let (point, h) := stream.point.step streamHost pauseSlices h
    { h with stream := some { stream with point := point } }

/-- The milliseconds of a slice of time. -/
def slice : Nat := 50

/-- What happens by itself in one slice of time. -/
def tick (h : Host E) : Host E :=
  let h := { h with now := h.now + slice }
  ((h.mapEngine (h.engine.pass h.now)).rest.flow.endDelay h.now).collect

/-- A session started. -/
def start (p : Profile) (mode : Option Mode) (h : Host E) :
    Except SessionError StartOutcome × Host E :=
  let (outcome, controller, disk) := h.controller.start p mode none h.disk
  (outcome, { h with controller := controller, disk := disk }.performAll)

/-- A running session asked to stop. -/
def stop (h : Host E) : Except SessionError Unit × Host E :=
  let (outcome, s) := h.session.stop
  (outcome, (h.mapSession fun _ => s).performAll)

/-- A mode asked for. -/
def switchMode (m : Mode) (h : Host E) : RequestOutcome × Host E :=
  let (outcome, s) := h.session.switchMode m
  (outcome, (h.mapSession fun _ => s).performAll)

/-- Inspection asked for or against. -/
def setMitm (on : Bool) (h : Host E) : RequestOutcome × Host E :=
  let (outcome, s) := h.session.setMitm on
  (outcome, (h.mapSession fun _ => s).performAll)

/-- The host after the controller has gone away. -/
def farewell (h : Host E) : Host E := (h.mapSession Session.farewell).performAll

end Host

end ProxyControl
