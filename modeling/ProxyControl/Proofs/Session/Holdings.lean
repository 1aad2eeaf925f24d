import ProxyControl.Proofs.Session.Chronicle

/-!
# What a session holds

A session holds the thread of its start call, a log stream, a nickname and the permission for a
delayed switch of inspection. Each is taken in one place and given up in others, some of them before
the phase changes, but at every moment the phase tells which of them there are. While a log stream
was given up and what it sent is taken, the session has no stream although it is still running; the
return of a second start call in that time would stop it twice, and that there is none follows from
what the queue can hold.

So the controller has one start call in flight at most. It makes one for each start that is answered
so, and all further starts are told that there is a session, until messages are taken.

## Main definitions

* `Session.Holdings`: what a session holds by its phase
* `Scene.answers`: the answers to the starts of a run
* `Scene.IsQuiet`: a run takes no message

## Main results

* `Session.Holdings.takeNext`: a message that is taken keeps what the phase tells
* `Scene.Holdings.act`: so does every action
* `Scene.answers_of_stopped`: of the starts of a quiet run the first is answered by a launch
* `Scene.holdings_run`: what holds after every run
-/

set_option autoImplicit false

namespace ProxyControl

namespace Session

/-- What a session holds by its phase, where messages are taken in a stage. -/
structure Holdings (stage : Stage) (s : Session) : Prop where
  /-- The thread of the start call is held while there is a session. -/
  thread : s.holdsThread = true ↔ s.phase ≠ .stopped
  /-- A log stream is held from readiness on, until it is given up. -/
  stream : s.holdsStream = true ↔ (s.phase = .running ∨ s.phase = .stopping) ∧ stage = .receiving
  named : s.nickname.isSome = true ↔ s.phase = .running ∨ s.phase = .stopping
  short : ∀ nickname ∈ s.nickname, nickname.length ≤ maxNicknameLength
  unready : s.phase = .starting → s.readySeen = false
  ready : s.phase = .running ∨ s.phase = .stopping → s.readySeen = true
  /-- Inspection may be switched only while the session is running. -/
  live : s.live.isSome = true → s.phase = .running ∧ stage = .receiving

/-- What of a session its holdings depend on. -/
def inHand (s : Session) : Phase × Bool × Option String × Bool × Bool × Option Nat :=
  (s.phase, s.readySeen, s.nickname, s.holdsThread, s.holdsStream, s.live)

namespace Holdings

variable {stage : Stage} {s s' : Session}

theorem congr (h : s.Holdings stage) (hs : s'.inHand = s.inHand) : s'.Holdings stage := by
  simp only [inHand, Prod.mk.injEq] at hs
  obtain ⟨hphase, hready, hnickname, hthread, hstream, hlive⟩ := hs
  constructor
  · rw [hthread, hphase]
    exact h.thread
  · rw [hstream, hphase]
    exact h.stream
  · rw [hnickname, hphase]
    exact h.named
  · rw [hnickname]
    exact h.short
  · rw [hphase, hready]
    exact h.unready
  · rw [hphase, hready]
    exact h.ready
  · rw [hlive, hphase]
    exact h.live

theorem idle (options : SessionOptions) : (Session.idle options).Holdings .receiving := by
  constructor <;> simp [Session.idle]

/-! ### Calls -/

/-- A session that is stopped holds nothing. -/
theorem of_stopped (h : s.Holdings stage) (hp : s.phase = .stopped) :
    s.holdsThread = false ∧ s.holdsStream = false ∧ s.live = none := by
  refine ⟨?_, ?_, ?_⟩
  · simpa [hp] using h.thread
  · simpa [hp] using h.stream
  · simpa [hp] using h.live

theorem launch_none (h : s.Holdings .receiving) (hp : s.phase = .stopped) (p : Profile) :
    (s.launch p none).2.Holdings .receiving := by
  obtain ⟨-, hstream, hlive⟩ := h.of_stopped hp
  rw [launch_none_eq]
  constructor <;> simp [hstream, hlive]

theorem launch_some (h : s.Holdings .receiving) (hp : s.phase = .stopped) (p : Profile)
    (e : IoError) : (s.launch p (some e)).2.Holdings .receiving := by
  obtain ⟨hthread, hstream, hlive⟩ := h.of_stopped hp
  rw [launch_some_eq]
  constructor <;> simp [hthread, hstream, hlive]

theorem stop (h : s.Holdings stage) : s.stop.2.Holdings stage := by
  by_cases hp : s.phase = .running
  · rw [stop_eq hp]
    constructor
    · simpa [hp] using h.thread
    · simpa [hp] using h.stream
    · simpa [hp] using h.named
    · exact h.short
    · simp
    · simpa [hp] using h.ready
    · simp
  · rw [stop_of_ne hp]
    exact h

theorem switchMode (h : s.Holdings stage) (mode : Mode) : (s.switchMode mode).2.Holdings stage := by
  by_cases hp : s.phase = .running
  · exact h.congr (by simp [Session.switchMode, Session.request, inHand, hp])
  · exact h.congr (by simp [Session.switchMode, inHand, hp])

theorem setMitm (h : s.Holdings stage) (on : Bool) : (s.setMitm on).2.Holdings stage := by
  by_cases hp : s.phase = .running
  · have hs : (s.setMitm on).2 = { s with
        pendingMitm := on, live := none, requests := s.requests ++ [.setMitm on] } := by
      simp [Session.setMitm, Session.request, hp]
    rw [hs]
    exact { h with live := by simp }
  · exact h.congr (by simp [Session.setMitm, inHand, hp])

/-! ### Messages -/

theorem onReady (h : s.Holdings stage) (hd : stage ≠ .receiving → s.phase ≠ .starting)
    (name : String) (generation : Nat) : (s.onReady name generation).Holdings stage := by
  by_cases hs : generation = s.generation ∧ s.phase = .starting
  · obtain ⟨hg, hp⟩ := hs
    have hstage : stage = .receiving := Decidable.not_not.1 fun hne => hd hne hp
    have hthread : s.holdsThread = true := h.thread.2 (by simp [hp])
    rw [onReady_eq name hg hp]
    constructor
    case short =>
      intro nickname hn
      obtain rfl := Option.some.inj hn
      rw [String.length_ofList]
      exact List.length_take_le ..
    all_goals simp [hthread, hstage]
  · rw [onReady_of_not name hs]
    exact h

theorem append (h : s.Holdings stage) (line : LogLine) : (s.append line).Holdings stage := by
  rw [append_eq]
  exact h.congr rfl

/-- A session that holds no log stream ends. -/
theorem finish (hs : s.holdsStream = false) (hl : s.live = none) (status : Status) :
    (s.finish status).Holdings stage := by
  rw [finish_eq]
  constructor <;> simp [hs, hl]

/-- A message that is handled. A start call that returns finds no log stream. -/
theorem handleOne (h : s.Holdings stage) (hd : stage ≠ .receiving → s.phase ≠ .starting)
    (name : String) {m : Message}
    (hm : ∀ status, m = .exited s.generation status → s.holdsStream = false) :
    (s.handleOne name m).Holdings stage := by
  cases m with
  | ready generation => exact h.onReady hd name generation
  | log generation record =>
    rw [Session.handleOne, Session.onLog]
    split
    · exact h.append _
    · exact h
  | exited generation status =>
    rw [Session.handleOne]
    split
    · next hg =>
      subst hg
      refine finish ?_ rfl status
      exact hm status rfl
    · exact h

theorem closeStream (h : s.Holdings .receiving) (status : Status) :
    s.closeStream.Holdings (.draining status) := by
  rw [closeStream_eq]
  exact { h with
    stream := by simp
    live := by simp }

theorem conclude {status : Status} (h : s.Holdings (.draining status)) (final : Status) :
    (s.conclude final).Holdings .receiving := by
  have hstream : s.holdsStream = false := by simpa using h.stream
  have hlive : s.live = none := by simpa using h.live
  rw [conclude_eq]
  constructor <;> simp [hstream, hlive]

/-- **A message that is taken keeps what the phase tells.** While a log stream was given up, the
session is not starting, and no return of its start call is in the queue. -/
theorem takeNext (h : s.Holdings stage) (name : String)
    (hd : stage ≠ .receiving → s.phase ≠ .starting ∧
      ∀ status, .exited s.generation status ∉ s.queue) :
    (s.takeNext name stage).2.Holdings (s.takeNext name stage).1 := by
  rcases s.takeNext_cases name stage with ⟨rfl, -, hnext⟩ | ⟨status, rfl, -, hnext⟩ |
    ⟨status, rest, rfl, -, -, hnext⟩ | ⟨m, rest, hq, hm, hnext⟩ <;> rw [hnext]
  · exact h
  · exact h.conclude status
  · have hrest : Holdings .receiving { s with queue := rest } := h.congr rfl
    exact hrest.closeStream status
  · have hrest : Holdings stage { s with queue := rest } := h.congr rfl
    refine hrest.handleOne (fun hne => (hd hne).1) name fun status hexited => ?_
    by_cases hs : stage = .receiving
    · exact hm hs status hexited
    · obtain ⟨-, hnone⟩ := hd hs
      rw [hq, hexited] at hnone
      exact absurd List.mem_cons_self (hnone status)

end Holdings

end Session

namespace Tableau

/-- While a log stream was given up, the session is not starting, and its start call has returned
once and for all. -/
theorem Standing.draining {t : Tableau} {pending : List LogRecord} (h : t.Standing pending)
    (hs : t.stage ≠ .receiving) :
    t.phase ≠ .starting ∧ ∀ status, .exited t.generation status ∉ t.traffic := by
  cases h with
  | stopped _ stage => exact absurd stage hs
  | starting _ stage => exact absurd stage hs
  | serving _ stage => exact absurd stage hs
  | ending status phase stage holds calls traffic streaming =>
    constructor
    · rcases phase with phase | phase <;> simp [phase]
    · simp [traffic]

/-- One start call is in flight at most. -/
theorem Standing.length_calls_le {t : Tableau} {pending : List LogRecord}
    (h : t.Standing pending) : t.calls.length ≤ 1 := by
  have hunderway {traffic : List Message} {pending : List LogRecord}
      (hu : Underway t.generation t.calls traffic pending) : t.calls.length ≤ 1 := by
    generalize t.calls = calls at hu
    cases hu with
    | calling => exact Nat.le_refl 1
    | returned => exact Nat.zero_le 1
  cases h with
  | stopped _ _ _ calls => simp [calls]
  | starting _ _ _ underway => exact hunderway underway
  | serving _ _ _ underway => exact hunderway underway
  | ending _ _ _ _ calls => simp [calls]

end Tableau

/-- Whether a request is for a start call. -/
def Request.isLaunch : Request → Bool
  | .launch _ _ => true
  | _ => false

/-- Whether a start was answered by a start call. -/
def wasLaunched : Except SessionError StartOutcome → Bool
  | .ok .launched => true
  | _ => false

/-- Whether an action is no start with a profile that is refused. -/
def Action.HasValidProfile : Action → Prop
  | .start profile _ _ => profile.validate = .ok ()
  | _ => True

namespace Session

/-- No message asks for a start call. -/
theorem countP_requests_handleOne (name : String) (s : Session) (m : Message) :
    (s.handleOne name m).requests.countP Request.isLaunch =
      s.requests.countP Request.isLaunch := by
  cases m with
  | ready generation =>
    by_cases h : generation = s.generation ∧ s.phase = .starting
    · rw [handleOne, onReady_eq name h.1 h.2]
      cases s.pendingMitm <;> simp [List.countP_append, Request.isLaunch]
    · rw [handleOne, onReady_of_not name h]
  | log generation record =>
    rw [handleOne, onLog]
    split
    · rw [append_eq]
    · rfl
  | exited generation status =>
    rw [handleOne]
    split
    · rw [finish_eq]
    · rfl

theorem countP_requests_takeNext (name : String) (stage : Stage) (s : Session) :
    (s.takeNext name stage).2.requests.countP Request.isLaunch =
      s.requests.countP Request.isLaunch := by
  rcases s.takeNext_cases name stage with ⟨-, -, hnext⟩ | ⟨status, -, -, hnext⟩ |
    ⟨status, rest, -, -, -, hnext⟩ | ⟨m, rest, -, -, hnext⟩ <;> rw [hnext]
  · rw [conclude_eq]
  · rw [closeStream_eq]
    simp [List.countP_append, Request.isLaunch]
  · exact countP_requests_handleOne name { s with queue := rest } m

end Session

namespace Scene

variable {W : Type} {c : Scene W}

/-! ## Requests carried out -/

theorem session_settle (c : Scene W) :
    c.settle.session = { c.session with requests := [] } :=
  session_foldl_perform _ _

theorem point_foldl_perform (requests : List Request) (c : Scene W) :
    (requests.foldl perform c).point = c.point := by
  induction requests generalizing c with
  | nil => rfl
  | cons r requests ih =>
    rw [List.foldl_cons, ih]
    cases r <;> rfl

theorem point_settle (c : Scene W) : c.settle.point = c.point := point_foldl_perform _ _

/-- Every request for a start call makes one. -/
theorem length_made_settle (c : Scene W) :
    c.settle.made.length = c.made.length + c.session.requests.countP Request.isLaunch := by
  have hfold (requests : List Request) (c : Scene W) :
      (requests.foldl perform c).made.length =
        c.made.length + requests.countP Request.isLaunch := by
    induction requests generalizing c with
    | nil => rfl
    | cons r requests ih =>
      rw [List.foldl_cons, ih, List.countP_cons]
      cases r <;> simp [perform, Request.isLaunch, Nat.add_comm, Nat.add_left_comm]
  exact hfold _ _

/-! ## Holdings along a run -/

/-- What the session holds, where the controller is. -/
def Holdings (c : Scene W) : Prop := c.session.Holdings c.point.stage

theorem Holdings.settle (h : c.Holdings) : c.settle.Holdings := by
  rw [Holdings, session_settle, point_settle]
  exact Session.Holdings.congr h rfl

theorem Holdings.start (h : c.Holdings) (hf : c.point = .free) (profile : Profile)
    (mode : Option Mode) (threadError : Option IoError) :
    (c.controller.start profile mode threadError c.world).2.1.session.Holdings .receiving := by
  rw [Holdings, hf] at h
  unfold Controller.start
  split
  · exact h
  · split
    · rw [Session.notifyStatus_eq]
      exact Session.Holdings.congr h rfl
    · next hp =>
      have hp' : c.controller.session.phase = .stopped := Decidable.not_not.1 hp
      have hmode : Session.Holdings .receiving { c.controller.session with
          pendingMode := mode.getD c.controller.session.pendingMode } :=
        Session.Holdings.congr h rfl
      cases threadError with
      | none => exact hmode.launch_none hp' profile
      | some e => exact hmode.launch_some hp' profile e

theorem Holdings.proceed (h : c.Holdings) {pending : List LogRecord}
    (hs : c.tableau.Standing pending) (name : String) {errand : Errand} {stage : Stage}
    (hp : c.point = .busy errand stage) : (c.proceed name errand stage).Holdings := by
  have hstage : c.point.stage = stage := by rw [hp]; rfl
  rw [Holdings, hstage] at h
  unfold Scene.proceed
  split
  · next hdone =>
    rw [hdone.1] at h
    cases errand with
    | polling => exact Session.Holdings.congr h rfl
    | waiting target =>
      dsimp only
      split
      · exact h
      · rw [Holdings, hstage, hdone.1]
        exact h
  · split
    · rw [Holdings, hstage]
      exact h
    · refine Holdings.settle ?_
      refine Session.Holdings.takeNext h name fun hne => ?_
      have hne' : c.tableau.stage ≠ .receiving := by
        rw [← hstage] at hne
        exact hne
      obtain ⟨hphase, hexited⟩ := hs.draining hne'
      refine ⟨hphase, fun status hmem => hexited status ?_⟩
      exact List.mem_filter.2 ⟨hmem, rfl⟩

/-- **Every action keeps what the phase tells.** -/
theorem Holdings.act (h : c.Holdings) {pending : List LogRecord} (hs : c.tableau.Standing pending)
    (a : Action) : (c.act a).Holdings := by
  have hfree : c.point = .free → c.session.Holdings .receiving := by
    intro hf
    rw [Holdings, hf] at h
    exact h
  cases a with
  | start profile mode threadError =>
    rw [Scene.act]
    split
    · next hf =>
      refine Holdings.settle ?_
      have hstart := h.start hf profile mode threadError
      rw [Holdings]
      dsimp only
      rw [hf]
      exact hstart
    · exact h
  | stop =>
    rw [Scene.act]
    split
    · exact Holdings.settle (Session.Holdings.stop h)
    · exact h
  | switchMode mode =>
    rw [Scene.act]
    split
    · exact Holdings.settle (Session.Holdings.switchMode h mode)
    · exact h
  | setMitm on =>
    rw [Scene.act]
    split
    · exact Holdings.settle (Session.Holdings.setMitm h on)
    · exact h
  | call errand =>
    rw [Scene.act]
    split
    · next hf => exact hfree hf
    · exact h
  | proceed name =>
    rw [Scene.act]
    split
    · exact h
    · next errand stage hp => exact h.proceed hs name hp
  | timeOut =>
    rw [Scene.act]
    split
    · next hp =>
      rw [Holdings, hp] at h
      exact h
    · exact h
  | fire generation =>
    rw [Scene.act]
    split
    · exact Session.Holdings.congr h rfl
    · exact h
  | giveBack generation status =>
    rw [Scene.act]
    split
    · exact Session.Holdings.congr h rfl
    · exact h
  | advance index answers =>
    rw [Scene.act]
    split
    · exact h
    · refine Session.Holdings.congr h ?_
      simp only [withSession, session, foldl_enqueue_eq]
      rfl

/-! ## Answers -/

/-- The answer to an action, if it is a start. -/
def answer? (c : Scene W) : Action → Option (Except SessionError StartOutcome)
  | .start profile mode threadError =>
    if c.point = .free then some (c.controller.start profile mode threadError c.world).1 else none
  | _ => none

/-- The answers to the starts of a list of actions. -/
def answers : Scene W → List Action → List (Except SessionError StartOutcome)
  | _, [] => []
  | c, a :: actions => (c.answer? a).toList ++ (c.act a).answers actions

/-- A start is answered by a launch exactly if it asks for a start call. -/
theorem countP_requests_start (hr : c.session.requests = []) (profile : Profile)
    (mode : Option Mode) (threadError : Option IoError) :
    let r := c.controller.start profile mode threadError c.world
    r.2.1.session.requests.countP Request.isLaunch = [r.1].countP wasLaunched := by
  intro r
  have hq : c.controller.session.requests = [] := hr
  simp only [r, Controller.start]
  cases profile.validate with
  | error e => simp [hq, wasLaunched]
  | ok _ =>
    by_cases hp : c.controller.session.phase = .stopped
    · rw [if_neg (not_not_intro hp)]
      cases threadError with
      | none => simp [Session.launch, Session.moveTo, Session.emit, Session.request, hq,
          Request.isLaunch, wasLaunched]
      | some e => simp [Session.launch, Session.moveTo, Session.emit, hq, wasLaunched]
    · rw [if_pos hp]
      simp [Session.notifyStatus_eq, hq, wasLaunched]

/-- A start call is made for each start that is answered so, and by nothing else. -/
theorem length_made_act (hr : c.session.requests = []) (a : Action) :
    (c.act a).made.length = c.made.length + (c.answer? a).toList.countP wasLaunched := by
  have hsettle (s : Session) (hs : s.requests.countP Request.isLaunch = 0) :
      (c.withSession s).settle.made.length = c.made.length := by
    rw [length_made_settle]
    exact congrArg (c.made.length + ·) hs
  cases a with
  | start profile mode threadError =>
    rw [act, answer?]
    split
    · rw [length_made_settle]
      exact congrArg (c.made.length + ·) (countP_requests_start hr profile mode threadError)
    · rfl
  | stop =>
    rw [act]
    split
    · refine hsettle _ ?_
      by_cases hp : c.session.phase = .running
      · rw [Session.stop_eq hp, hr]
        cases c.session.holdsStream <;> rfl
      · rw [Session.stop_of_ne hp, hr]
        rfl
    · rfl
  | switchMode mode =>
    rw [act]
    split
    · refine hsettle _ ?_
      by_cases hp : c.session.phase = .running <;>
        simp [Session.switchMode, Session.request, hp, hr, Request.isLaunch]
    · rfl
  | setMitm on =>
    rw [act]
    split
    · refine hsettle _ ?_
      by_cases hp : c.session.phase = .running <;>
        simp [Session.setMitm, Session.request, hp, hr, Request.isLaunch]
    · rfl
  | call errand => rw [act]; split <;> rfl
  | proceed name =>
    rw [act]
    split
    · rfl
    · next errand stage hp =>
      unfold proceed
      split
      · cases errand with
        | polling => rfl
        | waiting target =>
          dsimp only
          split <;> rfl
      · split
        · rfl
        · have htake := Session.countP_requests_takeNext name stage c.session
          rw [hr] at htake
          refine (length_made_settle _).trans ?_
          exact congrArg (c.made.length + ·) htake
  | timeOut => rw [act]; split <;> rfl
  | fire generation => rw [act]; split <;> rfl
  | giveBack generation status => rw [act]; split <;> rfl
  | advance index answers => rw [act]; split <;> rfl

/-- As many start calls are made as starts are answered so. -/
theorem length_made_run (hr : c.session.requests = []) (actions : List Action) :
    (c.run actions).made.length = c.made.length + (c.answers actions).countP wasLaunched := by
  induction actions generalizing c with
  | nil => rfl
  | cons a actions ih =>
    have hrest := ih (requests_act hr a)
    rw [length_made_act hr a] at hrest
    rw [answers, List.countP_append, ← Nat.add_assoc]
    exact hrest

/-! ## Runs that take no message -/

/-- Whether an action takes a message, or waits for the log stream to take all of its messages. -/
def Takes (c : Scene W) (a : Action) : Prop :=
  (∃ name, a = .proceed name) ∧ c.point ≠ .free ∧
    ¬(c.point.stage = .receiving ∧ c.session.queue = [])

/-- No message is taken by a list of actions. -/
def IsQuiet : Scene W → List Action → Prop
  | _, [] => True
  | c, a :: actions => ¬c.Takes a ∧ (c.act a).IsQuiet actions

/-- What is no start changes the phase only by a message, or where the session is running. -/
theorem phase_act (hp : c.session.phase ≠ .running) {a : Action} (hq : ¬c.Takes a)
    (ha : ∀ profile mode threadError, a ≠ .start profile mode threadError) :
    (c.act a).session.phase = c.session.phase := by
  cases a with
  | start profile mode threadError => exact absurd rfl (ha profile mode threadError)
  | stop =>
    rw [act]
    split
    · rw [session_settle, withSession, Session.stop_of_ne hp]
      rfl
    · rfl
  | switchMode mode =>
    rw [act]
    split
    · rw [session_settle, Session.switchMode, if_pos hp]
      rfl
    · rfl
  | setMitm on =>
    rw [act]
    split
    · rw [session_settle, Session.setMitm, if_pos hp]
      rfl
    · rfl
  | call errand => rw [act]; split <;> rfl
  | proceed name =>
    rw [act]
    split
    · rfl
    · next errand stage hpoint =>
      have hstage : c.point.stage = stage := by rw [hpoint]; rfl
      have hempty : stage = .receiving ∧ c.session.queue = [] := by
        refine Decidable.not_not.1 fun hn => hq ⟨⟨name, rfl⟩, ?_, ?_⟩
        · simp [hpoint]
        · rwa [hstage]
      unfold proceed
      rw [if_pos hempty]
      cases errand with
      | polling => rfl
      | waiting target =>
        dsimp only
        split <;> rfl
  | timeOut => rw [act]; split <;> rfl
  | fire generation => rw [act]; split <;> rfl
  | giveBack generation status => rw [act]; split <;> rfl
  | advance index answers =>
    rw [act]
    split
    · rfl
    · simp only [withSession, session, foldl_enqueue_eq]

theorem act_start (profile : Profile) (mode : Option Mode) (threadError : Option IoError)
    (hf : c.point = .free) :
    c.answer? (.start profile mode threadError) =
        some (c.controller.start profile mode threadError c.world).1 ∧
      (c.act (.start profile mode threadError)).session.phase =
        (c.controller.start profile mode threadError c.world).2.1.session.phase := by
  rw [answer?, act, if_pos hf, if_pos hf, session_settle]
  exact ⟨rfl, rfl⟩

/-- Where there is no session, a start is answered by a launch, and then there is one. -/
theorem act_start_of_stopped {profile : Profile} (hv : profile.validate = .ok ())
    (mode : Option Mode) (hf : c.point = .free) (hp : c.session.phase = .stopped) :
    c.answer? (.start profile mode none) = some (.ok .launched) ∧
      (c.act (.start profile mode none)).session.phase = .starting := by
  obtain ⟨ha, hphase⟩ := act_start profile mode none hf
  have hp' : ¬c.controller.session.phase ≠ .stopped := not_not_intro hp
  rw [Controller.start, hv] at ha hphase
  dsimp only at ha hphase
  rw [if_neg hp'] at ha hphase
  exact ⟨ha, hphase⟩

/-- While the engine was called and is not ready, an action that takes no message changes nothing of
that, and a start is told that there is a session. -/
theorem act_of_starting (hp : c.session.phase = .starting) {a : Action} (hq : ¬c.Takes a)
    (hu : a.HasValidProfile) :
    (c.answer? a = none ∨ c.answer? a = some (.ok .alreadyRunning)) ∧
      (c.act a).session.phase = .starting := by
  have hne : c.session.phase ≠ .running := by simp [hp]
  cases a with
  | start profile mode threadError =>
    by_cases hf : c.point = .free
    · obtain ⟨ha, hphase⟩ := act_start profile mode threadError hf
      have hp' : c.controller.session.phase ≠ .stopped := fun hs => by cases hp.symm.trans hs
      rw [Controller.start, hu] at ha hphase
      dsimp only at ha hphase
      rw [if_pos hp'] at ha hphase
      rw [Session.notifyStatus_eq] at hphase
      exact ⟨.inr ha, hphase.trans hp⟩
    · rw [answer?, act, if_neg hf, if_neg hf]
      exact ⟨.inl rfl, hp⟩
  | _ => exact ⟨.inl rfl, (phase_act hne hq (by simp)).trans hp⟩

/-- While a session is starting, all starts are told that there is one, until a message is taken. -/
theorem answers_of_starting (hp : c.session.phase = .starting) {actions : List Action}
    (hq : c.IsQuiet actions) (hu : ∀ a ∈ actions, a.HasValidProfile) :
    ∃ n, c.answers actions = List.replicate n (.ok .alreadyRunning) := by
  induction actions generalizing c with
  | nil => exact ⟨0, rfl⟩
  | cons a actions ih =>
    obtain ⟨ha, hrest⟩ := hq
    obtain ⟨hanswer, hphase⟩ := act_of_starting hp ha (hu a List.mem_cons_self)
    obtain ⟨n, hn⟩ := ih hphase hrest fun b hb => hu b (List.mem_cons_of_mem a hb)
    rcases hanswer with hanswer | hanswer
    · exact ⟨n, by rw [answers, hanswer, hn]; rfl⟩
    · exact ⟨n + 1, by rw [answers, hanswer, hn]; rfl⟩

/-- **Of some starts the first is answered by a launch.** All after it are told that there is a
session, until a message is taken. -/
theorem answers_of_stopped {profile : Profile} (hv : profile.validate = .ok ())
    (mode : Option Mode) (hf : c.point = .free) (hp : c.session.phase = .stopped)
    {rest : List Action} (hq : (c.act (.start profile mode none)).IsQuiet rest)
    (hu : ∀ a ∈ rest, a.HasValidProfile) :
    ∃ n, c.answers (.start profile mode none :: rest) =
      .ok .launched :: List.replicate n (.ok .alreadyRunning) := by
  obtain ⟨hanswer, hphase⟩ := act_start_of_stopped hv mode hf hp
  obtain ⟨n, hn⟩ := answers_of_starting hphase hq hu
  exact ⟨n, by rw [answers, hanswer, hn]; rfl⟩

/-! ## What holds after every run -/

theorem Holdings.run (h : c.Holdings) {failure : Prop} {sessions : List (List SessionEvent)}
    {last : List SessionEvent} {seen pending : List LogRecord}
    (hc : c.tableau.Chronicle failure sessions last seen pending) (hr : c.session.requests = [])
    (actions : List Action) (hf : ∀ a ∈ actions, a.Fails → failure) :
    (c.run actions).Holdings := by
  induction actions generalizing c sessions last seen pending with
  | nil => exact h
  | cons a actions ih =>
    obtain ⟨_, _, _, _, ha⟩ := hc.step (act_step hr a (hf a List.mem_cons_self))
    exact ih (h.act hc.standing a) ha (requests_act hr a) fun b hb =>
      hf b (List.mem_cons_of_mem a hb)

/-- **One session at a time.** After every run, the phase of the session tells what it holds, one
start call is in flight at most, and as many were made as starts were answered by a launch. Where
there is no session then, the next start is answered by a launch, and all starts after it are told
that there is a session, until a message is taken. -/
theorem holdings_run (store : ProfileStore W) (options : SessionOptions) (w : W)
    (actions : List Action) :
    let c := (idle store options w).run actions
    c.session.Holdings c.point.stage ∧ c.calls.length ≤ 1 ∧
      c.made.length = ((idle store options w).answers actions).countP wasLaunched ∧
      (c.session.phase = .stopped → c.point = .free → ∀ profile mode rest,
        profile.validate = .ok () → (c.act (.start profile mode none)).IsQuiet rest →
        (∀ a ∈ rest, a.HasValidProfile) →
        ∃ n, c.answers (.start profile mode none :: rest) =
          .ok .launched :: List.replicate n (.ok .alreadyRunning)) := by
  intro c
  have hidle : (idle store options w).Holdings := Session.Holdings.idle options
  obtain ⟨_, _, _, _, hc⟩ := chronicle_run True store options w actions fun _ _ _ => trivial
  refine ⟨?_, hc.standing.length_calls_le, ?_, ?_⟩
  · exact hidle.run (chronicle_idle True store options w) rfl actions fun _ _ _ => trivial
  · have hmade := length_made_run (c := idle store options w) rfl actions
    rw [hmade]
    exact Nat.zero_add _
  · intro hp hf profile mode rest hv hq hu
    exact answers_of_stopped hv mode hf hp hq hu

/-- Two starts, one right after the other. -/
example :
    let store : ProfileStore Unit := .ofBackend ⟨"", fun w => (.ok [], w), fun _ w => (.ok (), w)⟩
    let profile : Profile := { Profile.new "h:1" with key := "k" }
    (idle store ⟨.log, 0, "", 1⟩ ()).answers [.start profile none none, .start profile none none] =
      [.ok .launched, .ok .alreadyRunning] := rfl

end Scene

end ProxyControl
