import ProxyControl.Proofs.Session.Scene

/-!
# What may happen to a session

The events of a session depend on little of a scene: the phase, how the controller takes messages,
the start calls and log streams, and what the messages say beside readiness. Every action is one of
a few steps of that much, and each step is stated in full: what must hold before, what changes, and
whether a start was refused in it or a start call returned.

## Main definitions

* `Tableau`: what the events of a session depend on
* `Note`, `Scene.note`: which start was refused, and what a start call returned, in an action
* `Tableau.Step`: one step, with what is noted of it

## Main results

* `Scene.act_step`: every action is a step
-/

set_option autoImplicit false

namespace ProxyControl

/-- Whether a message says that an engine is ready. -/
def Message.isReady : Message → Bool
  | .ready _ => true
  | .exited _ _ | .log _ _ => false

/-- The generation that a message belongs to. -/
def Message.generation : Message → Nat
  | .ready generation | .exited generation _ | .log generation _ => generation

/-- The messages that do not say that an engine is ready. -/
def trafficOf (messages : List Message) : List Message := messages.filter (!·.isReady)

theorem trafficOf_append (ms ns : List Message) :
    trafficOf (ms ++ ns) = trafficOf ms ++ trafficOf ns := List.filter_append ..

@[simp] theorem trafficOf_nil : trafficOf [] = [] := rfl

@[simp] theorem trafficOf_ready (generation : Nat) (ms : List Message) :
    trafficOf (.ready generation :: ms) = trafficOf ms := rfl

@[simp] theorem trafficOf_log (generation : Nat) (record : LogRecord) (ms : List Message) :
    trafficOf (.log generation record :: ms) = .log generation record :: trafficOf ms := rfl

@[simp] theorem trafficOf_exited (generation : Nat) (status : Status) (ms : List Message) :
    trafficOf (.exited generation status :: ms) = .exited generation status :: trafficOf ms := rfl

/-- The event of a start while there is a session. -/
def busyEvent : SessionEvent := .line (.notice "proxy already started")

/-- The events of readiness. -/
def openingEvents (nickname : String) : List SessionEvent :=
  [.changed .starting .running, .line (.notice (Session.startedNotice nickname)), .started nickname]

/-- The events of a record. -/
def recordEvents (record : LogRecord) : List SessionEvent :=
  if (LogLine.ofRecord record).isShown then [.line (.ofRecord record)] else []

/-- The last events of a session in a phase. -/
def closingEvents (phase : Phase) (status : Status) : List SessionEvent :=
  statusNotices status ++ [.changed phase .stopped, .ended status]

/-- What is noted of an action. -/
structure Note where
  /-- The generation of the session that a start was refused for. -/
  refused : Option Nat
  /-- What a start call returned, with its generation. -/
  returned : Option (Nat × Status)

/-- Nothing is noted. -/
def Note.none : Note := ⟨.none, .none⟩

/-- The session that a start was refused for, by its answer. -/
def refusedFor (generation : Nat) : Except SessionError StartOutcome → Option Nat
  | .ok .alreadyRunning => some generation
  | _ => none

/-- What the events of a session depend on. -/
structure Tableau where
  /-- How far the session is. -/
  phase : Phase
  /-- The number of the latest session. -/
  generation : Nat
  /-- Whether a log stream is held. -/
  holdsStream : Bool
  /-- How messages are taken. -/
  stage : Stage
  /-- The generations of the start calls that have not returned. -/
  calls : List Nat
  /-- The messages not taken yet that do not say that an engine is ready. -/
  traffic : List Message
  /-- All log streams, the latest first. -/
  streams : List RunningStream
  /-- The records that log streams handed on. -/
  handed : List (Nat × LogRecord)
  /-- All events. -/
  events : List SessionEvent

namespace Tableau

/-- The tableau with more events. -/
def tell (t : Tableau) (events : List SessionEvent) : Tableau :=
  { t with events := t.events ++ events }

/-- One step. The thread of a start call cannot be created only if there is such a failure. -/
inductive Step (failure : Prop) (t : Tableau) : Note → Tableau → Prop
  /-- Nothing changes that matters. -/
  | stay : Step failure t .none t
  /-- A start call is made. -/
  | launch (hp : t.phase = .stopped) :
    Step failure t .none { t.tell [.changed .stopped .starting] with
      phase := .starting
      generation := t.generation + 1
      calls := t.calls ++ [t.generation + 1] }
  /-- The thread of a start call cannot be created. -/
  | abort (hf : failure) (hp : t.phase = .stopped) :
    Step failure t .none { t.tell [.changed .stopped .starting, .changed .starting .stopped] with
      generation := t.generation + 1 }
  /-- There is a session already. -/
  | busy (hp : t.phase ≠ .stopped) :
    Step failure t ⟨some t.generation, none⟩ (t.tell [busyEvent])
  /-- The engine is asked to stop. -/
  | stop (hp : t.phase = .running) :
    Step failure t .none { t.tell [.changed .running .stopping] with
      phase := .stopping
      streams := if t.holdsStream then Scene.askStop t.streams else t.streams }
  /-- The engine is ready. -/
  | ready (nickname : String) (hp : t.phase = .starting) :
    Step failure t .none { t.tell (openingEvents nickname) with
      phase := .running
      holdsStream := true
      streams := ⟨t.generation, .initial, false⟩ :: t.streams }
  /-- A record is taken. -/
  | record {r : LogRecord} {rest : List Message} (ht : t.traffic = .log t.generation r :: rest) :
    Step failure t .none { t.tell (recordEvents r) with traffic := rest }
  /-- A message of an earlier session is taken. -/
  | stale {m : Message} {rest : List Message} (ht : t.traffic = m :: rest)
    (hm : m.generation ≠ t.generation) : Step failure t .none { t with traffic := rest }
  /-- The start call has returned, and the log stream is given up. -/
  | close {status : Status} {rest : List Message}
    (ht : t.traffic = .exited t.generation status :: rest) (hs : t.stage = .receiving)
    (hh : t.holdsStream = true) :
    Step failure t .none { t with
      stage := .draining status
      holdsStream := false
      traffic := rest
      streams := Scene.askStop t.streams }
  /-- The start call has returned, and no log stream is waited for. -/
  | finish {status : Status} {rest : List Message} (final : Status)
    (ht : t.traffic = .exited t.generation status :: rest)
    (hh : t.stage = .receiving → t.holdsStream = false) :
    Step failure t .none { t.tell (closingEvents t.phase final) with
      phase := .stopped
      traffic := rest }
  /-- All that the log stream sent was taken. -/
  | conclude {status : Status} (final : Status) (hs : t.stage = .draining status)
    (ht : t.traffic = [])
    (hj : ∀ latest earlier, t.streams = latest :: earlier → latest.point.isEnded = true) :
    Step failure t .none
      { t.tell (.line (.notice "logging stopped") :: closingEvents t.phase final) with
        phase := .stopped
        stage := .receiving }
  /-- A start call returns. -/
  | giveBack {generation : Nat} (status : Status) (hc : generation ∈ t.calls) :
    Step failure t ⟨none, some (generation, status)⟩ { t with
      calls := t.calls.erase generation
      traffic := t.traffic ++ [.exited generation status] }
  /-- A log stream makes a step. -/
  | advance {index : Nat} {r : RunningStream} (answers : StreamAnswers)
    (hr : t.streams[index]? = some r) :
    Step failure t .none { t with
      streams := t.streams.set index (Scene.advanceStream answers r).1
      handed := t.handed ++ (Scene.advanceStream answers r).2.map (r.generation, ·)
      traffic := t.traffic ++ (Scene.advanceStream answers r).2.map (.log r.generation) }

/-- What a request changes where it is carried out. -/
def perform (t : Tableau) : Request → Tableau
  | .launch generation _ => { t with calls := t.calls ++ [generation] }
  | .openStream generation => { t with streams := ⟨generation, .initial, false⟩ :: t.streams }
  | .stopStream => { t with streams := Scene.askStop t.streams }
  | .joinStream | .stopEngine | .switchMode _ | .setMitm _ | .delayMitm _ => t

theorem Step.of_eq {failure : Prop} {t u v : Tableau} {note : Note} (h : t.Step failure note u)
    (e : u = v) : t.Step failure note v := e ▸ h

end Tableau

namespace Scene

variable {W : Type} {c : Scene W}

/-- What the events depend on, if the scene had another session and took messages otherwise. -/
def tableauOf (c : Scene W) (stage : Stage) (s : Session) : Tableau where
  phase := s.phase
  generation := s.generation
  holdsStream := s.holdsStream
  stage := stage
  calls := c.calls
  traffic := trafficOf s.queue
  streams := c.streams
  handed := c.handed
  events := c.history ++ s.events

/-- What the events depend on. -/
def tableau (c : Scene W) : Tableau := c.tableauOf c.point.stage c.session

theorem tableau_perform (c : Scene W) (r : Request) :
    (c.perform r).tableau = c.tableau.perform r := by
  cases r <;> rfl

theorem tableau_foldl_perform (requests : List Request) (c : Scene W) :
    (requests.foldl perform c).tableau = requests.foldl Tableau.perform c.tableau := by
  induction requests generalizing c with
  | nil => rfl
  | cons r requests ih => rw [List.foldl_cons, ih, tableau_perform, List.foldl_cons]

/-- A session with its requests carried out. -/
theorem tableau_settle (c : Scene W) :
    c.settle.tableau = c.session.requests.foldl Tableau.perform c.tableau :=
  tableau_foldl_perform _ _

theorem tableau_resume (c : Scene W) (errand : Errand) (stage : Stage) (s : Session) :
    (c.resume errand stage s).tableau = s.requests.foldl Tableau.perform (c.tableauOf stage s) :=
  tableau_settle _

theorem session_perform (c : Scene W) (r : Request) : (c.perform r).session = c.session := by
  cases r <;> rfl

theorem session_foldl_perform (requests : List Request) (c : Scene W) :
    (requests.foldl perform c).session = c.session := by
  induction requests generalizing c with
  | nil => rfl
  | cons r requests ih => rw [List.foldl_cons, ih, session_perform]

/-- What a session asks for is carried out at once. -/
theorem requests_settle (c : Scene W) : c.settle.session.requests = [] := by
  rw [settle, session_foldl_perform]
  rfl

/-- The session that an action is a refused start for. -/
def refusal? (c : Scene W) : Action → Option Nat
  | .start profile mode threadError =>
    if c.point = .free then
      refusedFor c.session.generation
        (c.controller.start profile mode threadError c.world).1
    else none
  | _ => none

/-- What a start call returns in an action. -/
def return? (c : Scene W) : Action → Option (Nat × Status)
  | .giveBack generation status => if generation ∈ c.calls then some (generation, status) else none
  | _ => none

/-- What is noted of an action. -/
def note (c : Scene W) (a : Action) : Note := ⟨c.refusal? a, c.return? a⟩

/-- A message that is handled is a step. -/
theorem handleOne_step (failure : Prop) (name : String) {m : Message} {rest : List Message}
    (stage : Stage) (s : Session) (hr : s.requests = []) (hq : s.queue = m :: rest)
    (hh : ∀ generation status, m = .exited generation status → stage = .receiving →
      ¬(generation = s.generation ∧ s.holdsStream = true)) :
    let s' := { s with queue := rest }.handleOne name m
    (c.tableauOf stage s).Step failure .none
      (s'.requests.foldl Tableau.perform (c.tableauOf stage s')) := by
  intro s'
  cases m with
  | ready generation =>
    by_cases h : generation = s.generation ∧ s.phase = .starting
    · obtain ⟨hg, hp⟩ := h
      have hs : s' = _ := Session.onReady_eq (s := { s with queue := rest }) name hg hp
      refine (Tableau.Step.ready (String.ofList (name.toList.take maxNicknameLength)) hp).of_eq ?_
      cases hm : s.pendingMitm <;>
        simp [hs, tableauOf, Tableau.perform, Tableau.tell, openingEvents, hr, hq, hm, hg]
    · have hs : s' = { s with queue := rest } := Session.onReady_of_not name h
      refine Tableau.Step.stay.of_eq ?_
      simp [hs, tableauOf, hr, hq]
  | log generation record =>
    by_cases h : generation = s.generation
    · have hs : s' = _ := (Session.onLog_eq (s := { s with queue := rest }) h record).trans
        (Session.append_eq _ _)
      have ht : (c.tableauOf stage s).traffic = .log s.generation record :: trafficOf rest := by
        simp [tableauOf, hq, h]
      refine (Tableau.Step.record ht).of_eq ?_
      simp [hs, tableauOf, Tableau.tell, recordEvents, hr]
    · have hs : s' = { s with queue := rest } := if_neg h
      have ht : (c.tableauOf stage s).traffic = .log generation record :: trafficOf rest := by
        simp [tableauOf, hq]
      refine (Tableau.Step.stale ht h).of_eq ?_
      simp [hs, tableauOf, hr]
  | exited generation status =>
    by_cases h : generation = s.generation
    · have hs : s' = _ := (if_pos h).trans (Session.finish_eq _ _)
      have ht : (c.tableauOf stage s).traffic = .exited s.generation status :: trafficOf rest := by
        simp [tableauOf, hq, h]
      -- a log stream that is held would have been given up first
      have hn : stage = .receiving → s.holdsStream = false := fun hst =>
        Bool.eq_false_iff.2 fun hst' => hh generation status rfl hst ⟨h, hst'⟩
      refine (Tableau.Step.finish (Session.finalStatus s.readySeen status) ht hn).of_eq ?_
      simp [hs, tableauOf, Tableau.tell, closingEvents, hr]
    · have hs : s' = { s with queue := rest } := if_neg h
      have ht : (c.tableauOf stage s).traffic = .exited generation status :: trafficOf rest := by
        simp [tableauOf, hq]
      refine (Tableau.Step.stale ht h).of_eq ?_
      simp [hs, tableauOf, hr]

/-- A message that is taken, or the end of a session after its log stream, is a step. -/
theorem takeNext_step (failure : Prop) (name : String) (stage : Stage) (s : Session)
    (hr : s.requests = []) (he : ¬(stage = .receiving ∧ s.queue = []))
    (hj : stage ≠ .receiving → c.isJoined = true) :
    let p := s.takeNext name stage
    (c.tableauOf stage s).Step failure .none
      (p.2.requests.foldl Tableau.perform (c.tableauOf p.1 p.2)) := by
  intro p
  rcases s.takeNext_cases name stage with ⟨hst, hq, -⟩ | ⟨status, rfl, hq, hp⟩ |
    ⟨status, rest, rfl, hq, hh, hp⟩ | ⟨m, rest, hq, hm, hp⟩
  · exact absurd ⟨hst, hq⟩ he
  · have ht : (c.tableauOf (.draining status) s).traffic = [] := congrArg trafficOf hq
    have hl : ∀ latest earlier, c.streams = latest :: earlier → latest.point.isEnded = true := by
      intro latest earlier hc
      simpa [isJoined, hc] using hj (by simp)
    refine (Tableau.Step.conclude (Session.finalStatus s.readySeen status) rfl ht hl).of_eq ?_
    simp [p, hp, Session.conclude_eq, tableauOf, Tableau.tell, closingEvents, hr, hq]
  · have ht : (c.tableauOf .receiving s).traffic =
        .exited s.generation status :: trafficOf rest := by
      simp [tableauOf, hq]
    refine (Tableau.Step.close ht rfl hh).of_eq ?_
    simp [p, hp, Session.closeStream_eq, tableauOf, Tableau.perform, hr]
  · have hheld : ∀ generation status, m = .exited generation status → stage = .receiving →
        ¬(generation = s.generation ∧ s.holdsStream = true) := by
      rintro generation status hexited hst ⟨rfl, hh⟩
      exact Bool.false_ne_true ((hm hst status hexited).symm.trans hh)
    simp only [p, hp]
    exact handleOne_step failure name stage s hr hq hheld

theorem proceed_step (failure : Prop) (name : String) (errand : Errand) {stage : Stage}
    (hp : c.point = .busy errand stage) (hr : c.session.requests = []) :
    c.tableau.Step failure .none (c.proceed name errand stage).tableau := by
  have hst : c.tableau = c.tableauOf stage c.session := by rw [tableau, hp]; rfl
  unfold proceed
  split
  · next h =>
    cases errand with
    | polling =>
      refine Tableau.Step.stay.of_eq ?_
      rw [hst, h.1]
      simp [tableau, tableauOf, withSession, session, events, ControlPoint.stage]
    | waiting target =>
      simp only
      split
      · refine Tableau.Step.stay.of_eq ?_
        rw [hst, h.1]
        rfl
      · exact .stay
  · next he =>
    split
    · exact .stay
    · next hj =>
      have hjoined : stage ≠ .receiving → c.isJoined = true := fun hne => by simpa [hne] using hj
      have h := takeNext_step (c := c) failure name stage c.session hr he hjoined
      rw [hst]
      exact h.of_eq (tableau_resume c errand _ _).symm

theorem tableau_settle_withSession (c : Scene W) (s : Session) :
    (c.withSession s).settle.tableau =
      s.requests.foldl Tableau.perform (c.tableauOf c.point.stage s) :=
  tableau_settle _

theorem start_step {failure : Prop} (profile : Profile) (mode : Option Mode)
    {threadError : Option IoError} (hf : ∀ e, threadError = some e → failure)
    (hr : c.session.requests = []) :
    let r := c.controller.start profile mode threadError c.world
    c.tableau.Step failure ⟨refusedFor c.session.generation r.1, none⟩
      (settle { c with controller := r.2.1, world := r.2.2 }).tableau := by
  intro r
  have ht : (settle { c with controller := r.2.1, world := r.2.2 }).tableau =
      r.2.1.session.requests.foldl Tableau.perform (c.tableauOf c.point.stage r.2.1.session) :=
    tableau_settle _
  have hq : c.controller.session.requests = [] := hr
  rw [ht]
  simp only [r, Controller.start]
  cases profile.validate with
  | error e =>
    refine Tableau.Step.stay.of_eq ?_
    simp [tableau, session, hq]
  | ok _ =>
    by_cases hp : c.controller.session.phase = .stopped
    · rw [if_neg (not_not_intro hp)]
      cases threadError with
      | none =>
        refine (Tableau.Step.launch hp).of_eq ?_
        simp [Session.launch_none_eq, tableau, tableauOf, Tableau.perform, Tableau.tell, session,
          hp, hq]
      | some e =>
        refine (Tableau.Step.abort (hf e rfl) hp).of_eq ?_
        simp [Session.launch_some_eq, tableau, tableauOf, Tableau.tell, session, hp, hq]
    · rw [if_pos hp]
      refine (Tableau.Step.busy hp).of_eq ?_
      have hb : statusNotices .alreadyRunning = [busyEvent] := rfl
      simp [Session.notifyStatus_eq, tableau, tableauOf, Tableau.tell, session, hb, hq]

theorem stop_step (failure : Prop) (hr : c.session.requests = []) :
    c.tableau.Step failure .none (c.withSession c.session.stop.2).settle.tableau := by
  rw [tableau_settle_withSession]
  by_cases hp : c.session.phase = .running
  · refine (Tableau.Step.stop hp).of_eq ?_
    rw [Session.stop_eq hp, hr]
    cases hs : c.session.holdsStream <;>
      simp [tableau, tableauOf, Tableau.tell, Tableau.perform, hs]
  · refine Tableau.Step.stay.of_eq ?_
    rw [Session.stop_of_ne hp, hr]
    rfl

theorem switchMode_step (failure : Prop) (mode : Mode) (hr : c.session.requests = []) :
    c.tableau.Step failure .none (c.withSession (c.session.switchMode mode).2).settle.tableau := by
  refine Tableau.Step.stay.of_eq ?_
  rw [tableau_settle_withSession]
  by_cases hp : c.session.phase = .running <;>
    simp [Session.switchMode, Session.request, hp, hr, tableau, tableauOf, Tableau.perform]

theorem setMitm_step (failure : Prop) (on : Bool) (hr : c.session.requests = []) :
    c.tableau.Step failure .none (c.withSession (c.session.setMitm on).2).settle.tableau := by
  refine Tableau.Step.stay.of_eq ?_
  rw [tableau_settle_withSession]
  by_cases hp : c.session.phase = .running <;>
    simp [Session.setMitm, Session.request, hp, hr, tableau, tableauOf, Tableau.perform]

/-- The records that a log stream hands on join the queue. -/
theorem foldl_enqueue_eq (generation : Nat) (records : List LogRecord) (s : Session) :
    records.foldl (fun s record => s.enqueue (.log generation record)) s =
      { s with queue := s.queue ++ records.map (.log generation) } := by
  induction records generalizing s with
  | nil => simp
  | cons record records ih => rw [List.foldl_cons, ih]; simp [Session.enqueue]

theorem trafficOf_map_log (generation : Nat) (records : List LogRecord) :
    trafficOf (records.map (.log generation)) = records.map (.log generation) := by
  induction records with
  | nil => rfl
  | cons record records ih => rw [List.map_cons, trafficOf_log, ih]

theorem advance_step (failure : Prop) (index : Nat) (answers : StreamAnswers) :
    c.tableau.Step failure .none (c.act (.advance index answers)).tableau := by
  unfold act
  cases hr : c.streams[index]? with
  | none => simpa only [hr] using .stay
  | some r =>
    refine (Tableau.Step.advance answers hr).of_eq ?_
    simp [hr, foldl_enqueue_eq, tableau, tableauOf, withSession, session, trafficOf_append,
      trafficOf_map_log]

/-- Readiness that is fired is told by no step until it is taken. -/
theorem tableau_enqueue_ready (c : Scene W) (generation : Nat) :
    (c.withSession (c.session.enqueue (.ready generation))).tableau = c.tableau := by
  have ht : trafficOf (c.session.queue ++ [.ready generation]) = trafficOf c.session.queue := by
    simp [trafficOf_append]
  exact congrArg (fun messages => { c.tableau with traffic := messages }) ht

theorem giveBack_step (failure : Prop) {generation : Nat} (status : Status)
    (hc : generation ∈ c.calls) :
    c.tableau.Step failure ⟨none, some (generation, status)⟩
      ({ c with calls := c.calls.erase generation }.withSession
        (c.session.enqueue (.exited generation status))).tableau := by
  refine (Tableau.Step.giveBack status hc).of_eq ?_
  simp [tableau, tableauOf, withSession, session, Session.enqueue, trafficOf_append]

end Scene

/-- Whether an action is a start whose thread cannot be created. -/
def Action.Fails (a : Action) : Prop := ∃ profile mode e, a = .start profile mode (some e)

namespace Scene

variable {W : Type} {c : Scene W}

/-- **Every action is a step.** -/
theorem act_step {failure : Prop} (hr : c.session.requests = []) (a : Action)
    (hf : a.Fails → failure) : c.tableau.Step failure (c.note a) (c.act a).tableau := by
  cases a with
  | start profile mode threadError =>
    rw [act, note, refusal?]
    split
    · exact start_step profile mode (fun e he => hf ⟨profile, mode, e, by rw [he]⟩) hr
    · exact .stay
  | stop =>
    rw [act]
    split
    · exact stop_step _ hr
    · exact .stay
  | switchMode mode =>
    rw [act]
    split
    · exact switchMode_step _ mode hr
    · exact .stay
  | setMitm on =>
    rw [act]
    split
    · exact setMitm_step _ on hr
    · exact .stay
  | call errand =>
    rw [act]
    split
    · next hp => exact Tableau.Step.stay.of_eq (by simp [tableau, hp, ControlPoint.stage]; rfl)
    · exact .stay
  | proceed name =>
    rw [act]
    split
    · exact .stay
    · next errand stage hp => exact proceed_step _ name errand hp hr
  | timeOut =>
    rw [act]
    split
    · next hp => exact Tableau.Step.stay.of_eq (by simp [tableau, hp, ControlPoint.stage]; rfl)
    · exact .stay
  | fire generation =>
    rw [act]
    split
    · exact Tableau.Step.stay.of_eq (tableau_enqueue_ready c generation).symm
    · exact .stay
  | giveBack generation status =>
    rw [act, note, return?]
    split
    · next hc => exact giveBack_step _ status hc
    · exact .stay
  | advance index answers => exact advance_step _ index answers

theorem requests_act (hr : c.session.requests = []) (a : Action) :
    (c.act a).session.requests = [] := by
  cases a with
  | proceed name =>
    rw [act]
    split
    · exact hr
    · next errand stage hp =>
      unfold proceed
      split
      · cases errand with
        | polling => exact hr
        | waiting target =>
          simp only
          split <;> exact hr
      · split
        · exact hr
        · exact requests_settle _
  | timeOut => rw [act]; split <;> exact hr
  | advance index answers =>
    rw [act]
    split
    · exact hr
    · simp only [withSession, session, foldl_enqueue_eq]
      exact hr
  | call errand => rw [act]; split <;> exact hr
  | fire generation => rw [act]; split <;> exact hr
  | giveBack generation status => rw [act]; split <;> exact hr
  | _ =>
    rw [act]
    split
    · exact requests_settle _
    · exact hr

end Scene

end ProxyControl
