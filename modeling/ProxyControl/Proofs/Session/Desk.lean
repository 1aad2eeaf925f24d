import ProxyControl.Proofs.Session.Holdings

/-!
# What a session asks of its engine

What a controller asks of the engine depends on little of its state: the phase, the mode that was
asked for last, the permission for a delayed switch of inspection, and which readiness is still to
be taken. Every action is one of a few steps of that much, and each step says what the engine is
asked and what the caller is answered.

## Main definitions

* `Turn`: what an action asks of the engine, and which changes are applied
* `Desk`: what the requests to the engine depend on
* `Desk.Step`: one step

## Main results

* `Scene.act_desk`: every action is a step
-/

set_option autoImplicit false

namespace ProxyControl

/-- Whether a request is for a log stream. -/
def Request.isForStream : Request → Bool
  | .openStream _ | .stopStream | .joinStream => true
  | .launch _ _ | .stopEngine | .switchMode _ | .setMitm _ | .delayMitm _ => false

/-- Whether an event tells that readiness was handled. -/
def SessionEvent.isStarted : SessionEvent → Bool
  | .started _ => true
  | .changed _ _ | .line _ | .ended _ => false

/-- Whether an action is one of a start call. -/
def Action.isOfCall : Action → Bool
  | .fire _ | .giveBack _ _ => true
  | .start _ _ _ | .stop | .switchMode _ | .setMitm _ | .call _ | .proceed _ | .timeOut
  | .advance _ _ => false

/-- What an action asks for beside the log streams, and which changes are applied. -/
structure Turn where
  asks : List Request
  /-- The value of a change of inspection that is applied. -/
  toggled : Option Bool
  /-- Whether a change of the mode is applied. -/
  switched : Bool

namespace Turn

/-- Nothing asked for. -/
def none : Turn := ⟨[], .none, false⟩

/-- Some requests, beside those for the log streams. -/
def ofRequests (requests : List Request) : Turn :=
  ⟨requests.filter (!·.isForStream), .none, false⟩

/-- Changes of inspection by their generations, with the one that is applied. -/
def addToggle (turn : Turn) (generation : Nat) (toggles : List (Nat × Bool)) : List (Nat × Bool) :=
  match turn.toggled with
  | .none => toggles
  | some on => toggles ++ [(generation, on)]

end Turn

/-- What the requests to the engine depend on. -/
structure Desk where
  phase : Phase
  /-- The number of the latest session. -/
  generation : Nat
  /-- The mode that was asked for last. -/
  mode : Mode
  /-- The generation whose delayed switch of inspection may still happen. -/
  live : Option Nat
  /-- The generations whose readiness was fired and not taken. -/
  readies : List Nat
  /-- How many times readiness was handled. -/
  started : Nat
  /-- The generations of the start calls that have not returned. -/
  calls : List Nat

/-- One step of the controller, with what is asked for and applied. -/
inductive Desk.Step (d : Desk) : Turn → Desk → Prop
  /-- Nothing changes that matters. -/
  | stay : Step d .none d
  /-- A start call is made. -/
  | launch (params : StartParams) (mode : Mode) (hp : d.phase = .stopped) :
    Step d ⟨[.launch (d.generation + 1) params], none, false⟩ { d with
      phase := .starting
      generation := d.generation + 1
      mode := mode
      calls := d.calls ++ [d.generation + 1] }
  /-- The thread of a start call cannot be created. -/
  | abort (mode : Mode) (hp : d.phase = .stopped) :
    Step d .none { d with generation := d.generation + 1, mode := mode }
  | stop (hp : d.phase = .running) :
    Step d ⟨[.stopEngine], none, false⟩ { d with phase := .stopping, live := none }
  /-- A mode is asked for while no engine is known to serve. -/
  | queueMode (mode : Mode) (hp : d.phase ≠ .running) : Step d .none { d with mode := mode }
  | switchMode (mode : Mode) (hp : d.phase = .running) :
    Step d ⟨[.switchMode mode.constant], none, true⟩ { d with mode := mode }
  | setMitm (on : Bool) (hp : d.phase = .running) :
    Step d ⟨[.setMitm on], some on, false⟩ { d with live := none }
  /-- The engine is ready, and inspection is delayed or not asked for. -/
  | ready {rest : List Nat} (delays : Bool) (hp : d.phase = .starting)
    (hr : d.readies = d.generation :: rest) :
    Step d ⟨.switchMode d.mode.constant :: if delays then [.delayMitm d.generation] else [],
        none, false⟩ { d with
      phase := .running
      live := some d.generation
      readies := rest
      started := d.started + 1 }
  /-- Readiness that is out of place is taken. -/
  | skip {generation : Nat} {rest : List Nat} (hr : d.readies = generation :: rest) :
    Step d .none { d with readies := rest }
  /-- The start call has returned, and the log stream is given up. -/
  | close : Step d .none { d with live := none }
  /-- The session ends. -/
  | finish : Step d .none { d with phase := .stopped, live := none }

theorem Desk.Step.of_eq {d d' d'' : Desk} {turn turn' : Turn} (h : d.Step turn d')
    (ht : turn = turn') (hd : d' = d'') : d.Step turn' d'' := hd ▸ ht ▸ h

/-- The generations of readiness among messages. -/
def readiesOf (messages : List Message) : List Nat :=
  messages.filterMap fun
    | .ready generation => some generation
    | .exited _ _ | .log _ _ => none

@[simp] theorem readiesOf_nil : readiesOf [] = [] := rfl

@[simp] theorem readiesOf_ready (generation : Nat) (messages : List Message) :
    readiesOf (.ready generation :: messages) = generation :: readiesOf messages := rfl

@[simp] theorem readiesOf_exited (generation : Nat) (status : Status) (messages : List Message) :
    readiesOf (.exited generation status :: messages) = readiesOf messages := rfl

@[simp] theorem readiesOf_log (generation : Nat) (record : LogRecord) (messages : List Message) :
    readiesOf (.log generation record :: messages) = readiesOf messages := rfl

@[simp] theorem readiesOf_append (ms ns : List Message) :
    readiesOf (ms ++ ns) = readiesOf ms ++ readiesOf ns := List.filterMap_append

theorem readiesOf_map_log (generation : Nat) (records : List LogRecord) :
    readiesOf (records.map (.log generation)) = [] := by
  induction records with
  | nil => rfl
  | cons record records ih => exact ih

theorem countP_isStarted_statusNotices (status : Status) :
    (statusNotices status).countP SessionEvent.isStarted = 0 := by
  rw [List.countP_eq_zero]
  intro e he
  obtain ⟨text, -, rfl⟩ := List.mem_map.1 he
  simp [SessionEvent.isStarted]

namespace Scene

variable {W : Type} {c : Scene W}

/-- What the requests to the engine depend on, if the scene had another session. -/
def deskOf (c : Scene W) (s : Session) : Desk where
  phase := s.phase
  generation := s.generation
  mode := s.pendingMode
  live := s.live
  readies := readiesOf s.queue
  started := (c.history ++ s.events).countP SessionEvent.isStarted
  calls := c.calls

/-- What the requests to the engine depend on. -/
def desk (c : Scene W) : Desk := c.deskOf c.session

/-- What an action asks of the engine, and which changes are applied. -/
def turn (c : Scene W) : Action → Turn
  | .start profile mode threadError =>
    if c.point = .free then
      .ofRequests (c.controller.start profile mode threadError c.world).2.1.session.requests
    else .none
  | .stop => if c.point = .free then .ofRequests c.session.stop.2.requests else .none
  | .switchMode mode =>
    if c.point = .free then
      let (outcome, s) := c.session.switchMode mode
      { Turn.ofRequests s.requests with switched := outcome = .applied }
    else .none
  | .setMitm on =>
    if c.point = .free then
      let (outcome, s) := c.session.setMitm on
      { Turn.ofRequests s.requests with toggled := if outcome = .applied then some on else none }
    else .none
  | .proceed name =>
    match c.point with
    | .free => .none
    | .busy _ stage =>
      if stage ≠ .receiving ∧ !c.isJoined then .none
      else .ofRequests (c.session.takeNext name stage).2.requests
  | .call _ | .timeOut | .fire _ | .giveBack _ _ | .advance _ _ => .none

/-! ## Requests carried out -/

/-- The generations of the start calls among requests. -/
def launchesOf (requests : List Request) : List Nat :=
  requests.filterMap fun
    | .launch generation _ => some generation
    | _ => none

theorem calls_foldl_perform (requests : List Request) (c : Scene W) :
    (requests.foldl perform c).calls = c.calls ++ launchesOf requests := by
  induction requests generalizing c with
  | nil => simp [launchesOf]
  | cons r requests ih =>
    rw [List.foldl_cons, ih]
    cases r <;> simp [perform, launchesOf]

theorem history_foldl_perform (requests : List Request) (c : Scene W) :
    (requests.foldl perform c).history = c.history := by
  induction requests generalizing c with
  | nil => rfl
  | cons r requests ih =>
    rw [List.foldl_cons, ih]
    cases r <;> rfl

/-- Of what is asked for, only the start calls change anything here. -/
theorem desk_settle (c : Scene W) :
    c.settle.desk = { c.desk with calls := c.calls ++ launchesOf c.session.requests } := by
  have hcalls : c.settle.calls = c.calls ++ launchesOf c.session.requests :=
    calls_foldl_perform _ _
  have hhistory : c.settle.history = c.history := history_foldl_perform _ _
  simp [desk, deskOf, session_settle, hcalls, hhistory]

theorem desk_settle_withSession (c : Scene W) (s : Session) :
    (c.withSession s).settle.desk =
      { c.deskOf s with calls := c.calls ++ launchesOf s.requests } := desk_settle _

/-! ## Calls -/

theorem start_desk (hr : c.session.requests = []) (profile : Profile) (mode : Option Mode)
    (threadError : Option IoError) :
    let r := c.controller.start profile mode threadError c.world
    c.desk.Step (.ofRequests r.2.1.session.requests)
      (settle { c with controller := r.2.1, world := r.2.2 }).desk := by
  intro r
  have hq : c.controller.session.requests = [] := hr
  have hd : (settle { c with controller := r.2.1, world := r.2.2 }).desk =
      { c.deskOf r.2.1.session with
        calls := c.calls ++ launchesOf r.2.1.session.requests } := desk_settle _
  rw [hd]
  simp only [r, Controller.start]
  cases profile.validate with
  | error e =>
    refine Desk.Step.stay.of_eq ?_ ?_
    · simp [hq, Turn.ofRequests, Turn.none]
    · simp [hq, desk, session, deskOf, launchesOf]
  | ok _ =>
    by_cases hp : c.controller.session.phase = .stopped
    · rw [if_neg (not_not_intro hp)]
      cases threadError with
      | none =>
        refine (Desk.Step.launch (c.controller.session.startParams profile)
          (mode.getD c.controller.session.pendingMode) hp).of_eq ?_ ?_
        · simp [Session.launch_none_eq, hq, Turn.ofRequests, Request.isForStream, desk, session,
            deskOf, Session.startParams]
        · simp [Session.launch_none_eq, hq, desk, session, deskOf, launchesOf, List.countP_append,
            SessionEvent.isStarted]
      | some e =>
        refine (Desk.Step.abort (mode.getD c.controller.session.pendingMode) hp).of_eq ?_ ?_
        · simp [Session.launch_some_eq, hq, Turn.ofRequests, Turn.none]
        · simp [Session.launch_some_eq, hq, hp, desk, session, deskOf, launchesOf,
            List.countP_append, SessionEvent.isStarted]
    · rw [if_pos hp]
      have hstarted := countP_isStarted_statusNotices .alreadyRunning
      refine Desk.Step.stay.of_eq ?_ ?_
      · simp [Session.notifyStatus_eq, hq, Turn.ofRequests, Turn.none]
      · simp [Session.notifyStatus_eq, hq, desk, session, deskOf, launchesOf, List.countP_append,
          hstarted]

theorem stop_desk (hr : c.session.requests = []) :
    c.desk.Step (.ofRequests c.session.stop.2.requests)
      (c.withSession c.session.stop.2).settle.desk := by
  rw [desk_settle_withSession]
  by_cases hp : c.session.phase = .running
  · refine (Desk.Step.stop hp).of_eq ?_ ?_
    · cases hs : c.session.holdsStream <;>
        simp [Session.stop_eq hp, hr, hs, Turn.ofRequests, Request.isForStream]
    · cases hs : c.session.holdsStream <;>
        simp [Session.stop_eq hp, hr, hs, desk, deskOf, launchesOf, List.countP_append,
          SessionEvent.isStarted]
  · refine Desk.Step.stay.of_eq ?_ ?_
    · simp [Session.stop_of_ne hp, hr, Turn.ofRequests, Turn.none]
    · simp [Session.stop_of_ne hp, hr, desk, deskOf, launchesOf]

theorem switchMode_desk (hr : c.session.requests = []) (mode : Mode) :
    let r := c.session.switchMode mode
    c.desk.Step { Turn.ofRequests r.2.requests with switched := r.1 = .applied }
      (c.withSession r.2).settle.desk := by
  intro r
  rw [desk_settle_withSession]
  by_cases hp : c.session.phase = .running
  · refine (Desk.Step.switchMode mode hp).of_eq ?_ ?_ <;>
      simp [r, Session.switchMode, Session.request, hp, hr, Turn.ofRequests, Request.isForStream,
        desk, deskOf, launchesOf]
  · refine (Desk.Step.queueMode mode hp).of_eq ?_ ?_ <;>
      simp [r, Session.switchMode, hp, hr, Turn.ofRequests, Turn.none, desk, deskOf, launchesOf]

theorem setMitm_desk (hr : c.session.requests = []) (on : Bool) :
    let r := c.session.setMitm on
    c.desk.Step { Turn.ofRequests r.2.requests with
        toggled := if r.1 = .applied then some on else none }
      (c.withSession r.2).settle.desk := by
  intro r
  rw [desk_settle_withSession]
  by_cases hp : c.session.phase = .running
  · refine (Desk.Step.setMitm on hp).of_eq ?_ ?_ <;>
      simp [r, Session.setMitm, Session.request, hp, hr, Turn.ofRequests, Request.isForStream,
        desk, deskOf, launchesOf]
  · refine Desk.Step.stay.of_eq ?_ ?_ <;>
      simp [r, Session.setMitm, hp, hr, Turn.ofRequests, Turn.none, desk, deskOf, launchesOf]

/-! ## Messages -/

/-- A message that is handled is a step. -/
theorem handleOne_desk (name : String) {m : Message} {rest : List Message} (s : Session)
    (hr : s.requests = []) (hq : s.queue = m :: rest) :
    let s' := { s with queue := rest }.handleOne name m
    (c.deskOf s).Step (.ofRequests s'.requests) (c.deskOf s') ∧ launchesOf s'.requests = [] := by
  intro s'
  cases m with
  | ready generation =>
    by_cases h : generation = s.generation ∧ s.phase = .starting
    · obtain ⟨rfl, hp⟩ := h
      have hs : s' = _ := Session.onReady_eq (s := { s with queue := rest }) name rfl hp
      have hready : (c.deskOf s).readies = s.generation :: readiesOf rest := by
        simp [deskOf, hq]
      constructor
      · refine (Desk.Step.ready s.pendingMitm hp hready).of_eq ?_ ?_
        · cases hm : s.pendingMitm <;>
            simp [hs, hr, hm, Turn.ofRequests, Request.isForStream, deskOf]
        · simp [hs, deskOf, List.countP_append, SessionEvent.isStarted, Nat.add_assoc]
      · cases hm : s.pendingMitm <;> simp [hs, hr, hm, launchesOf]
    · have hs : s' = { s with queue := rest } := Session.onReady_of_not name h
      have hready : (c.deskOf s).readies = generation :: readiesOf rest := by
        simp [deskOf, hq]
      constructor
      · refine (Desk.Step.skip hready).of_eq ?_ ?_
        · simp [hs, hr, Turn.ofRequests, Turn.none]
        · simp [hs, deskOf]
      · simp [hs, hr, launchesOf]
  | log generation record =>
    have hs : s'.requests = [] ∧ c.deskOf s' = c.deskOf s := by
      by_cases h : generation = s.generation
      · have hs : s' = _ := (Session.onLog_eq (s := { s with queue := rest }) h record).trans
          (Session.append_eq _ _)
        have hline : (if (LogLine.ofRecord record).isShown
            then [SessionEvent.line (.ofRecord record)] else []).countP
              SessionEvent.isStarted = 0 := by
          split <;> rfl
        refine ⟨by simp [hs, hr], ?_⟩
        simp [hs, hq, deskOf, List.countP_append, hline]
      · have hs : s' = { s with queue := rest } := if_neg h
        exact ⟨by simp [hs, hr], by simp [hs, hq, deskOf]⟩
    obtain ⟨hs, hdesk⟩ := hs
    rw [hdesk, hs]
    exact ⟨.stay, rfl⟩
  | exited generation status =>
    by_cases h : generation = s.generation
    · have hs : s' = _ := (if_pos h).trans (Session.finish_eq _ _)
      have hstarted := countP_isStarted_statusNotices (Session.finalStatus s.readySeen status)
      constructor
      · refine Desk.Step.finish.of_eq ?_ ?_
        · simp [hs, hr, Turn.ofRequests, Turn.none]
        · simp [hs, hq, deskOf, List.countP_append, SessionEvent.isStarted, hstarted]
      · simp [hs, hr, launchesOf]
    · have hs : s' = { s with queue := rest } := if_neg h
      constructor
      · refine Desk.Step.stay.of_eq ?_ ?_
        · simp [hs, hr, Turn.ofRequests, Turn.none]
        · simp [hs, hq, deskOf]
      · simp [hs, hr, launchesOf]

/-- A message that is taken, or the end of a session after its log stream, is a step. -/
theorem takeNext_desk (name : String) {stage : Stage} {s : Session} (hr : s.requests = [])
    (h : s.Holdings stage) :
    let s' := (s.takeNext name stage).2
    (c.deskOf s).Step (.ofRequests s'.requests) (c.deskOf s') ∧ launchesOf s'.requests = [] := by
  intro s'
  rcases s.takeNext_cases name stage with ⟨-, -, hp⟩ | ⟨status, rfl, -, hp⟩ |
    ⟨status, rest, rfl, hq, -, hp⟩ | ⟨m, rest, hq, -, hp⟩ <;>
    simp only [s', hp]
  · rw [hr]
    exact ⟨.stay, rfl⟩
  · have hlive : s.live = none := by simpa using h.live
    have hstarted := countP_isStarted_statusNotices (Session.finalStatus s.readySeen status)
    constructor
    · refine Desk.Step.finish.of_eq ?_ ?_
      · simp [Session.conclude_eq, hr, Turn.ofRequests, Turn.none]
      · simp [Session.conclude_eq, deskOf, List.countP_append, SessionEvent.isStarted, hstarted,
          hlive]
    · simp [Session.conclude_eq, hr, launchesOf]
  · constructor
    · refine Desk.Step.close.of_eq ?_ ?_
      · simp [Session.closeStream_eq, hr, Turn.ofRequests, Turn.none, Request.isForStream]
      · simp [Session.closeStream_eq, deskOf, hq]
    · simp [Session.closeStream_eq, hr, launchesOf]
  · exact handleOne_desk name s hr hq

theorem proceed_desk (name : String) (errand : Errand) {stage : Stage}
    (hr : c.session.requests = []) (h : c.session.Holdings stage) :
    c.desk.Step
      (if stage ≠ .receiving ∧ !c.isJoined then .none
        else .ofRequests (c.session.takeNext name stage).2.requests)
      (c.proceed name errand stage).desk := by
  unfold proceed
  by_cases hdone : stage = .receiving ∧ c.session.queue = []
  · obtain ⟨rfl, hq⟩ := hdone
    have hturn : (c.session.takeNext name .receiving).2.requests = [] := by
      simp [Session.takeNext, hq, hr]
    refine Desk.Step.stay.of_eq ?_ ?_
    · simp [hturn, Turn.ofRequests, Turn.none]
    · rw [if_pos ⟨rfl, hq⟩]
      cases errand with
      | polling => simp [desk, deskOf, withSession, session, events]
      | waiting target =>
        dsimp only
        split <;> rfl
  · rw [if_neg hdone]
    split
    · exact .stay
    · obtain ⟨hstep, hlaunch⟩ := takeNext_desk (c := c) name hr h
      refine hstep.of_eq rfl ?_
      generalize c.session.takeNext name stage = r at hstep hlaunch
      obtain ⟨stage', s'⟩ := r
      have hd : (c.resume errand stage' s').desk =
          { c.deskOf s' with calls := c.calls ++ launchesOf s'.requests } := desk_settle _
      rw [hlaunch, List.append_nil] at hd
      exact hd.symm

/-! ## Actions -/

theorem desk_advance (c : Scene W) (index : Nat) (answers : StreamAnswers) :
    (c.act (.advance index answers)).desk = c.desk := by
  rw [act]
  split
  · rfl
  · simp [foldl_enqueue_eq, desk, deskOf, withSession, session, readiesOf_map_log]

theorem desk_fire (c : Scene W) (generation : Nat) :
    (c.act (.fire generation)).desk =
      if generation ∈ c.made then { c.desk with readies := c.desk.readies ++ [generation] }
      else c.desk := by
  rw [act]
  split
  · simp [desk, deskOf, withSession, session, Session.enqueue]
  · rfl

theorem desk_giveBack {generation : Nat} (h : generation ∈ c.calls) (status : Status) :
    (c.act (.giveBack generation status)).desk =
      { c.desk with calls := c.desk.calls.erase generation } := by
  rw [act, if_pos h]
  simp [desk, deskOf, withSession, session, Session.enqueue]

/-- **Every action is a step**, but for those of a start call. -/
theorem act_desk (hr : c.session.requests = []) (h : c.Holdings) {a : Action}
    (ha : a.isOfCall = false) : c.desk.Step (c.turn a) (c.act a).desk := by
  cases a with
  | start profile mode threadError =>
    rw [act, turn]
    split
    · exact start_desk hr profile mode threadError
    · exact .stay
  | stop =>
    rw [act, turn]
    split
    · exact stop_desk hr
    · exact .stay
  | switchMode mode =>
    rw [act, turn]
    split
    · exact switchMode_desk hr mode
    · exact .stay
  | setMitm on =>
    rw [act, turn]
    split
    · exact setMitm_desk hr on
    · exact .stay
  | proceed name =>
    cases hp : c.point with
    | free =>
      rw [act, turn, hp]
      exact .stay
    | busy errand stage =>
      rw [act, turn, hp]
      rw [Holdings, hp] at h
      exact proceed_desk name errand hr h
  | call errand =>
    rw [act]
    split <;> exact .stay
  | timeOut =>
    rw [act]
    split <;> exact .stay
  | fire generation => cases ha
  | giveBack generation status => cases ha
  | advance index answers => exact Desk.Step.stay.of_eq rfl (desk_advance c index answers).symm

end Scene

end ProxyControl
