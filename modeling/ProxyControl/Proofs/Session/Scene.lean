import ProxyControl.Proofs.Session.Events
import ProxyControl.Session.Host

/-!
# Sessions among engine calls and log streams

A controller is used by one caller, who makes one call at a time. Beside it run the start calls of
the engine, each of which fires readiness and returns, and the log streams, each of which hands on
records; all of them send messages to one queue. Here these parties are put together so that
anything may happen between any two messages that the controller takes: a call that is under way
goes on by one message at a time.

An action that cannot happen where it is tried changes nothing, so every list of actions is a run.
An engine may fire the readiness of a call that was made as often as it likes, and after the call
has returned, and its answers to a log stream are arbitrary.

## Main definitions

* `Session.takeNext`: one message taken from the queue
* `Scene`: a controller, the start calls and the log streams
* `Action`, `Scene.act`, `Scene.run`: what may happen, and what it leads to

## Main results

* `Session.takeNext_cases`: what taking a message does
* `Session.handleQueue_eq`: all messages that are there are handled by taking one after another
-/

set_option autoImplicit false

namespace ProxyControl

/-- How a controller takes messages. -/
inductive Stage where
  /-- Each message is handled as it comes. -/
  | receiving
  /-- The log stream of a session that has ended with a status was given up. What it sent is handled
  before the session ends. -/
  | draining (status : Status)
  deriving DecidableEq, Repr

namespace Session

/-- One message taken from the queue, when the engine goes by a name. Where a log stream was given
up and its messages are handled, the session ends. -/
def takeNext (name : String) : Stage → Session → Stage × Session
  | .receiving, s =>
    match s.queue with
    | [] => (.receiving, s)
    | m :: rest =>
      match { s with queue := rest }.receive name m with
      | (some status, s) => (.draining status, s)
      | (none, s) => (.receiving, s)
  | .draining status, s =>
    match s.queue with
    | [] => (.receiving, s.conclude status)
    | m :: rest => (.draining status, { s with queue := rest }.handleOne name m)

/-- What taking a message does: there is none, the session ends after its log stream, the return of
the start call gives the log stream up, or the message is handled. -/
theorem takeNext_cases (name : String) (stage : Stage) (s : Session) :
    (stage = .receiving ∧ s.queue = [] ∧ s.takeNext name stage = (.receiving, s)) ∨
      (∃ status, stage = .draining status ∧ s.queue = [] ∧
        s.takeNext name stage = (.receiving, s.conclude status)) ∨
      (∃ status rest, stage = .receiving ∧ s.queue = .exited s.generation status :: rest ∧
        s.holdsStream = true ∧
        s.takeNext name stage = (.draining status, { s with queue := rest }.closeStream)) ∨
      ∃ m rest, s.queue = m :: rest ∧
        (stage = .receiving → ∀ status, m = .exited s.generation status →
          s.holdsStream = false) ∧
        s.takeNext name stage = (stage, { s with queue := rest }.handleOne name m) := by
  cases hq : s.queue with
  | nil =>
    cases stage with
    | receiving => exact .inl ⟨rfl, rfl, by simp [takeNext, hq]⟩
    | draining status => exact .inr (.inl ⟨status, rfl, rfl, by simp [takeNext, hq]⟩)
  | cons m rest =>
    cases stage with
    | draining status =>
      exact .inr (.inr (.inr ⟨m, rest, rfl, by simp, by simp [takeNext, hq]⟩))
    | receiving =>
      by_cases hm : (∃ status, m = .exited s.generation status) ∧ s.holdsStream = true
      · obtain ⟨⟨status, rfl⟩, hs⟩ := hm
        exact .inr (.inr (.inl ⟨status, rest, rfl, rfl, hs, by simp [takeNext, receive, hq, hs]⟩))
      · have hr : { s with queue := rest }.receive name m =
            (none, { s with queue := rest }.handleOne name m) := by
          cases m with
          | exited generation status =>
            refine if_neg fun hn => hm ?_
            obtain ⟨rfl, hs⟩ := hn
            exact ⟨⟨status, rfl⟩, hs⟩
          | _ => rfl
        refine .inr (.inr (.inr ⟨m, rest, rfl, fun _ status hexited => ?_, ?_⟩))
        · exact Bool.eq_false_iff.2 fun hs => hm ⟨⟨status, hexited⟩, hs⟩
        · simp only [takeNext, hq, hr]

/-- So many messages taken. -/
def takeMany (name : String) : Nat → Stage × Session → Stage × Session
  | 0, p => p
  | n + 1, p => takeMany name n (takeNext name p.1 p.2)

/-- The session with another queue. -/
def withQueue (messages : List Message) (s : Session) : Session := { s with queue := messages }

/-- The queue plays no part in what a message does. -/
theorem handleOne_withQueue (name : String) (messages : List Message) (s : Session) (m : Message) :
    (s.withQueue messages).handleOne name m = (s.handleOne name m).withQueue messages := by
  cases m with
  | ready generation =>
    by_cases h : generation = s.generation ∧ s.phase = .starting
    · rw [handleOne, handleOne, onReady_eq name h.1 h.2]
      exact onReady_eq (s := s.withQueue messages) name h.1 h.2
    · rw [handleOne, handleOne, onReady_of_not name h]
      exact onReady_of_not (s := s.withQueue messages) name h
  | log generation record =>
    by_cases h : generation = s.generation
    · rw [handleOne, handleOne, onLog_eq h, onLog_eq (s := s.withQueue messages) h, append_eq,
        append_eq]
      rfl
    · simp [handleOne, onLog, withQueue, h]
  | exited generation status =>
    by_cases h : generation = s.generation
    · simp [handleOne, withQueue, h, finish_eq]
    · simp [handleOne, withQueue, h]

theorem foldl_handleOne_withQueue (name : String) (messages ms : List Message) (s : Session) :
    ms.foldl (handleOne name) (s.withQueue messages) =
      (ms.foldl (handleOne name) s).withQueue messages := by
  induction ms generalizing s with
  | nil => rfl
  | cons m ms ih => rw [List.foldl_cons, handleOne_withQueue, ih, List.foldl_cons]

theorem receive_withQueue (name : String) (messages : List Message) (s : Session) (m : Message) :
    (s.withQueue messages).receive name m =
      ((s.receive name m).1, (s.receive name m).2.withQueue messages) := by
  cases m with
  | exited generation status =>
    by_cases h : generation = s.generation ∧ s.holdsStream = true
    · simp [receive, withQueue, h, closeStream_eq]
    · have hw : ¬(generation = (s.withQueue messages).generation ∧
          (s.withQueue messages).holdsStream = true) := h
      rw [receive, receive, if_neg h, if_neg hw, handleOne_withQueue]
  | _ => simp [receive, handleOne_withQueue]

theorem conclude_withQueue (messages : List Message) (status : Status) (s : Session) :
    (s.withQueue messages).conclude status = (s.conclude status).withQueue messages := by
  rw [conclude_eq, conclude_eq]
  rfl

/-- Where a log stream was given up, taking all messages that are there ends the session. -/
theorem takeMany_draining (name : String) (status : Status) (messages : List Message)
    (s : Session) :
    takeMany name (messages.length + 1) (.draining status, s.withQueue messages) =
      (.receiving, ((messages.foldl (handleOne name) s).conclude status).withQueue []) := by
  induction messages generalizing s with
  | nil => exact congrArg (Prod.mk _) (conclude_withQueue [] status s)
  | cons m messages ih =>
    have hstep : takeNext name (.draining status) (s.withQueue (m :: messages)) =
        (.draining status, (s.handleOne name m).withQueue messages) :=
      congrArg (Prod.mk _) (handleOne_withQueue name messages s m)
    rw [List.length_cons, takeMany, hstep, ih, List.foldl_cons]

/-- A message that is taken gives the log stream up, or is handled. -/
theorem takeNext_receiving (name : String) (m : Message) (rest : List Message) (s : Session) :
    takeNext name .receiving (s.withQueue (m :: rest)) =
      ((s.receive name m).1.elim .receiving .draining, (s.receive name m).2.withQueue rest) := by
  have h := receive_withQueue name rest s m
  simp only [takeNext, withQueue] at h ⊢
  rw [h]
  rcases s.receive name m with ⟨_ | status, s'⟩ <;> rfl

theorem handleAll_withQueue (name : String) (tail messages ms : List Message) (s : Session) :
    handleAll name tail ms (s.withQueue messages) =
      (handleAll name tail ms s).withQueue messages := by
  induction ms generalizing s with
  | nil => rfl
  | cons m ms ih =>
    rw [handleAll, handleAll, receive_withQueue]
    rcases s.receive name m with ⟨_ | status, s'⟩
    · exact ih s'
    · change (List.foldl (handleOne name) (s'.withQueue messages) (ms ++ tail)).conclude status = _
      rw [foldl_handleOne_withQueue]
      exact conclude_withQueue messages status _

theorem handleAll_eq (name : String) (tail messages : List Message) (s : Session) :
    (∃ n, takeMany name n (.receiving, s.withQueue messages) =
        (.receiving, (handleAll name tail messages s).withQueue [])) ∨
      ∃ n k status s', takeMany name n (.receiving, s.withQueue messages) = (.draining status, s') ∧
        takeMany name k (.draining status, s'.withQueue (s'.queue ++ tail)) =
          (.receiving, (handleAll name tail messages s).withQueue []) := by
  induction messages generalizing s with
  | nil => exact .inl ⟨0, rfl⟩
  | cons m rest ih =>
    have hstep := takeNext_receiving name m rest s
    rw [handleAll]
    rcases hr : s.receive name m with ⟨_ | status, s'⟩ <;> rw [hr] at hstep
    · rcases ih s' with ⟨n, hn⟩ | ⟨n, k, status, t, hn, hk⟩
      · exact .inl ⟨n + 1, by rw [takeMany, hstep]; exact hn⟩
      · exact .inr ⟨n + 1, k, status, t, by rw [takeMany, hstep]; exact hn, hk⟩
    -- the log stream was given up: the rest is taken after what the stream sent to its end
    · refine .inr ⟨1, (rest ++ tail).length + 1, status, s'.withQueue rest, ?_, ?_⟩
      · rw [takeMany, hstep]
        rfl
      · exact takeMany_draining name status (rest ++ tail) s'

/-- **All messages that are there are handled by taking one after another.** Where a log stream is
given up on the way, it sends the messages of `tail` until it has ended. -/
theorem handleQueue_eq (name : String) (tail : List Message) (s : Session) :
    (∃ n, takeMany name n (.receiving, s) = (.receiving, s.handleQueue name tail)) ∨
      ∃ n k status s', takeMany name n (.receiving, s) = (.draining status, s') ∧
        takeMany name k (.draining status, s'.withQueue (s'.queue ++ tail)) =
          (.receiving, s.handleQueue name tail) := by
  have h := handleAll_eq name tail s.queue (s.withQueue [])
  have hs : (handleAll name tail s.queue (s.withQueue [])).withQueue [] =
      s.handleQueue name tail := (handleAll_withQueue name tail [] s.queue (s.withQueue [])).symm
  rw [hs] at h
  exact h

end Session

/-- What the caller of a controller waits for. -/
inductive Errand where
  /-- The events since the last time. -/
  | polling
  /-- That the session is in a phase. -/
  | waiting (target : Phase)
  deriving DecidableEq, Repr

/-- Where a controller is. -/
inductive ControlPoint where
  /-- Between two calls. -/
  | free
  /-- In a call that takes messages. -/
  | busy (errand : Errand) (stage : Stage)
  deriving DecidableEq, Repr

/-- How a controller takes messages where it is. -/
def ControlPoint.stage : ControlPoint → Stage
  | .free => .receiving
  | .busy _ stage => stage

/-- A controller, the start calls of the engine and the log streams. -/
structure Scene (W : Type) where
  controller : Controller W
  /-- What the saved profiles are kept in. -/
  world : W
  /-- Where the controller is. -/
  point : ControlPoint
  /-- The generations of all start calls that were made. -/
  made : List Nat
  /-- The generations of the start calls that have not returned. -/
  calls : List Nat
  /-- All log streams, the latest first. -/
  streams : List RunningStream
  /-- The records that log streams handed on, by the generations of their sessions. -/
  handed : List (Nat × LogRecord)
  /-- The events that the caller learned. -/
  history : List SessionEvent

/-- How an engine answers the call that a log stream makes, and how often the stream looks for a
request to stop in a pause. -/
structure StreamAnswers where
  /-- How many records the engine holds, or nothing when its log is closed. -/
  length : Option Nat
  /-- The record that is read. -/
  entry : LogEntry
  /-- How often the stream looks. -/
  slices : Nat
  deriving DecidableEq, Repr

/-- What may happen. -/
inductive Action where
  /-- The caller starts a session; the thread of the start call cannot be created if there is an
  error. -/
  | start (profile : Profile) (mode : Option Mode) (threadError : Option IoError)
  /-- The caller asks the running session to stop. -/
  | stop
  /-- The caller asks for a mode. -/
  | switchMode (mode : Mode)
  /-- The caller asks for inspection, or against it. -/
  | setMitm (on : Bool)
  /-- The caller asks for the events since the last time, or waits for a phase. -/
  | call (errand : Errand)
  /-- The controller takes a message, or ends the call that is under way. The engine goes by a
  name. -/
  | proceed (name : String)
  /-- The time of a call that waits is over. -/
  | timeOut
  /-- A start call fires readiness. -/
  | fire (generation : Nat)
  /-- A start call returns. -/
  | giveBack (generation : Nat) (status : Status)
  /-- The log stream with a number makes a step. -/
  | advance (index : Nat) (answers : StreamAnswers)

namespace Scene

variable {W : Type}

/-- A controller that was never used, with nothing beside it. -/
def idle (store : ProfileStore W) (options : SessionOptions) (w : W) : Scene W :=
  ⟨.idle store options, w, .free, [], [], [], [], []⟩

/-- The session. -/
def session (c : Scene W) : Session := c.controller.session

/-- The scene with another session. -/
def withSession (c : Scene W) (s : Session) : Scene W :=
  { c with controller := { c.controller with session := s } }

/-- All events, those that the caller did not learn yet at the end. -/
def events (c : Scene W) : List SessionEvent := c.history ++ c.session.events

/-- The latest log stream asked to stop. -/
def askStop : List RunningStream → List RunningStream
  | [] => []
  | latest :: earlier => { latest with stopRequested := true } :: earlier

/-- A request carried out. What the engine is told has no effect beside the engine's answers, and
the latest log stream is waited for where its messages are handled. -/
def perform (c : Scene W) : Request → Scene W
  | .launch generation _ =>
    { c with made := c.made ++ [generation], calls := c.calls ++ [generation] }
  | .openStream generation => { c with streams := ⟨generation, .initial, false⟩ :: c.streams }
  | .stopStream => { c with streams := askStop c.streams }
  | .joinStream | .stopEngine | .switchMode _ | .setMitm _ | .delayMitm _ => c

/-- All requests of the session carried out. -/
def settle (c : Scene W) : Scene W :=
  c.session.requests.foldl perform (c.withSession { c.session with requests := [] })

/-- Whether the latest log stream has ended, if there is one. -/
def isJoined (c : Scene W) : Bool :=
  match c.streams with
  | [] => true
  | latest :: _ => latest.point.isEnded

/-- What a log stream calls: an engine with the given answers, and a consumer that takes all
records. -/
def streamHost (stopRequested : Bool) (a : StreamAnswers) : StreamHost (List LogRecord) where
  stopRequested sent := (stopRequested, sent)
  length sent := (a.length, sent)
  read _ sent := (a.entry, sent)
  deleteSince _ sent := sent
  offer record sent := (true, sent ++ [record])

/-- A log stream after a step, and the records that it handed on. -/
def advanceStream (a : StreamAnswers) (r : RunningStream) : RunningStream × List LogRecord :=
  let (point, sent) := r.point.step (streamHost r.stopRequested a) a.slices []
  ({ r with point := point }, sent)

/-- The call under way after a message was taken. -/
def resume (errand : Errand) (stage : Stage) (s : Session) (c : Scene W) : Scene W :=
  { c.withSession s with point := .busy errand stage }.settle

/-- The call under way goes on: the controller takes a message, or it answers the caller. While the
log stream that was given up has not ended, the controller waits for it. -/
def proceed (name : String) (errand : Errand) (stage : Stage) (c : Scene W) : Scene W :=
  if stage = .receiving ∧ c.session.queue = [] then
    match errand with
    | .polling => { c.withSession { c.session with events := [] } with
        point := .free, history := c.events }
    | .waiting target => if c.session.phase = target then { c with point := .free } else c
  else if stage ≠ .receiving ∧ !c.isJoined then c
  else
    let (stage, s) := c.session.takeNext name stage
    c.resume errand stage s

/-- What an action leads to. -/
def act (c : Scene W) : Action → Scene W
  | .start profile mode threadError =>
    if c.point = .free then
      let (_, controller, w) := c.controller.start profile mode threadError c.world
      { c with controller := controller, world := w }.settle
    else c
  | .stop => if c.point = .free then (c.withSession c.session.stop.2).settle else c
  | .switchMode mode =>
    if c.point = .free then (c.withSession (c.session.switchMode mode).2).settle else c
  | .setMitm on => if c.point = .free then (c.withSession (c.session.setMitm on).2).settle else c
  | .call errand => if c.point = .free then { c with point := .busy errand .receiving } else c
  | .proceed name =>
    match c.point with
    | .free => c
    | .busy errand stage => c.proceed name errand stage
  | .timeOut =>
    match c.point with
    | .busy (.waiting _) .receiving => { c with point := .free }
    | _ => c
  | .fire generation =>
    if generation ∈ c.made then c.withSession (c.session.enqueue (.ready generation)) else c
  | .giveBack generation status =>
    if generation ∈ c.calls then
      { c with calls := c.calls.erase generation }.withSession
        (c.session.enqueue (.exited generation status))
    else c
  | .advance index answers =>
    match c.streams[index]? with
    | none => c
    | some r =>
      let (r', sent) := advanceStream answers r
      { c with
        streams := c.streams.set index r'
        handed := c.handed ++ sent.map (r.generation, ·) }.withSession
          (sent.foldl (fun s record => s.enqueue (.log r.generation record)) c.session)

/-- What a list of actions leads to. -/
def run (c : Scene W) (actions : List Action) : Scene W := actions.foldl act c

end Scene

end ProxyControl
