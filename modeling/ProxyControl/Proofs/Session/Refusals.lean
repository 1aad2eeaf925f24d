import ProxyControl.Proofs.Session.Ensemble
import ProxyControl.Proofs.Session.Upkeep

/-!
# Requests that are refused

A start looks at its profile first and at the phase then, and does nothing before both have passed:
one with a profile that cannot be used changes nothing at all, and one that finds a session only
says so. A stop is refused where no session is running. A start that passes saves the profile, if
that can be done, and makes the start call with what the profile and the options give. So of all the
profiles that a controller is given, the engine sees those that can be used, and each as it was given.

## Main definitions

* `Scene.Ignores`: an action that changes nothing and asks for nothing
* `Scene.withStore`: the scene after the caller changed the saved profiles itself
* `Scene.launches`: the start calls of a run, with their parameters
* `Scene.accepted`: the profiles of the starts that were answered by a launch
* `Scene.Screens`: how a start and a stop are met

## Main results

* `Scene.ignores_start`, `Scene.ignores_stop`: what a refused request changes
* `Scene.act_start_of_session`: what a start changes where there is a session
* `Scene.launches_run`: the start calls of a run, with their parameters
* `Scene.refused_run`: all of this after every run
-/

set_option autoImplicit false

namespace ProxyControl

/-! ## What is fixed -/

namespace Session

theorem options_handleOne (name : String) (s : Session) (m : Message) :
    (s.handleOne name m).options = s.options := by
  cases m with
  | ready generation =>
    by_cases h : generation = s.generation ∧ s.phase = .starting
    · rw [handleOne, onReady_eq name h.1 h.2]
    · rw [handleOne, onReady_of_not name h]
  | log generation record =>
    by_cases h : generation = s.generation
    · rw [handleOne, onLog_eq h, append_eq]
    · rw [handleOne, onLog, if_neg h]
  | exited generation status =>
    by_cases h : generation = s.generation
    · rw [handleOne, if_pos h, finish_eq]
    · rw [handleOne, if_neg h]

theorem options_takeNext (name : String) (stage : Stage) (s : Session) :
    (s.takeNext name stage).2.options = s.options := by
  rcases s.takeNext_cases name stage with ⟨-, -, hp⟩ | ⟨status, -, -, hp⟩ |
    ⟨status, rest, -, -, -, hp⟩ | ⟨m, rest, -, -, hp⟩ <;> rw [hp]
  · rw [conclude_eq]
  · rw [closeStream_eq]
  · exact options_handleOne name { s with queue := rest } m

theorem options_stop (s : Session) : s.stop.2.options = s.options := by
  by_cases hp : s.phase = .running
  · rw [stop_eq hp]
  · rw [stop_of_ne hp]

end Session

namespace Controller

variable {W : Type}

theorem options_start (p : Profile) (mode : Option Mode) (threadError : Option IoError)
    (c : Controller W) (w : W) :
    (c.start p mode threadError w).2.1.session.options = c.session.options := by
  unfold start
  split
  · rfl
  · split
    · rw [Session.notifyStatus_eq]
    · cases threadError with
      | none => rfl
      | some e =>
        dsimp only
        rw [Session.launch_some_eq]

/-- A start that is not refused. -/
theorem start_of_rest {p : Profile} {c : Controller W} (hv : p.validate = .ok ())
    (hp : c.session.phase = .stopped) (mode : Option Mode) (threadError : Option IoError) (w : W) :
    let s := { c.session with pendingMode := mode.getD c.session.pendingMode }
    c.start p mode threadError w =
      ((s.launch p threadError).1, ⟨(s.launch p threadError).2, (c.store.save p w).2.1⟩,
        (c.store.save p w).2.2) := by
  rw [start, hv]
  exact if_neg (not_not_intro hp)

end Controller

/-- A profile that is not saved leaves the working set as it was. -/
theorem ProfileStore.save_of_error {W : Type} {s : ProfileStore W} {p : Profile} {w : W}
    {e : StoreError} (h : (s.save p w).1 = .error e) : (s.save p w).2.1 = s := by
  unfold save at h ⊢
  -- the working set changes with the last step, after the file has been written
  split at h
  · next hfull => rw [if_pos hfull]
  · next hroom =>
    rw [if_neg hroom]
    unfold commit at h ⊢
    rcases hw : s.backend.writeAll (upsert p s.profiles) w with ⟨e' | _, w'⟩ <;> rw [hw] at h
    cases h

namespace Scene

variable {W : Type} {c : Scene W}

theorem options_settle (c : Scene W) : c.settle.session.options = c.session.options := by
  rw [session_settle]

theorem options_act (c : Scene W) (a : Action) :
    (c.act a).session.options = c.session.options := by
  cases a with
  | start profile mode threadError =>
    rw [act]
    split
    · exact (options_settle _).trans (Controller.options_start profile mode threadError _ _)
    · rfl
  | stop =>
    rw [act]
    split
    · exact (options_settle _).trans (Session.options_stop _)
    · rfl
  | switchMode mode =>
    rw [act]
    split
    · rw [options_settle, Session.switchMode_eq]
      rfl
    · rfl
  | setMitm on =>
    rw [act]
    split
    · rw [options_settle, Session.setMitm_eq]
      rfl
    · rfl
  | call errand => rw [act]; split <;> rfl
  | proceed name =>
    rw [act]
    split
    · rfl
    · next errand stage _ =>
      unfold proceed
      split
      · cases errand with
        | polling => rfl
        | waiting target =>
          dsimp only
          split <;> rfl
      · split
        · rfl
        · exact (options_settle _).trans (Session.options_takeNext name stage c.session)
  | timeOut => rw [act]; split <;> rfl
  | fire generation => rw [act]; split <;> rfl
  | giveBack generation status => rw [act]; split <;> rfl
  | advance index answers =>
    rw [act]
    split
    · rfl
    · simp only [withSession, session, foldl_enqueue_eq]

/-! ## One request -/

/-- An action that changes nothing, and asks the engine for nothing. -/
def Ignores (c : Scene W) (a : Action) : Prop := c.act a = c ∧ (c.turn a).asks = []

/-- The scene after the caller changed the saved profiles itself. -/
def withStore (store : ProfileStore W) (w : W) (c : Scene W) : Scene W :=
  { c with controller := { c.controller with store := store }, world := w }

/-- Nothing is asked for. -/
theorem settle_eq_self (hr : c.session.requests = []) : c.settle = c := by
  have hs : { c.session with requests := [] } = c.session := by rw [← hr]
  rw [settle, hr, hs]
  rfl

/-- **A profile that cannot be used** is told of, whatever else there is, and nothing is done. -/
theorem ignores_start (hr : c.session.requests = []) {profile : Profile} {e : ProfileError}
    (hv : profile.validate = .error e) (mode : Option Mode) (threadError : Option IoError) :
    c.Ignores (.start profile mode threadError) := by
  have hstart : c.controller.start profile mode threadError c.world =
      (.error (.invalidProfile e), c.controller, c.world) := by
    rw [Controller.start, hv]
  have hq : c.controller.session.requests = [] := hr
  constructor
  · rw [act, hstart]
    split
    · exact settle_eq_self hr
    · rfl
  · rw [turn, hstart]
    split
    · simp [hq, Turn.ofRequests]
    · rfl

theorem answer?_of_invalid (hf : c.point = .free) {profile : Profile} {e : ProfileError}
    (hv : profile.validate = .error e) (mode : Option Mode) (threadError : Option IoError) :
    c.answer? (.start profile mode threadError) = some (.error (.invalidProfile e)) := by
  rw [answer?, if_pos hf, Controller.start, hv]

/-- **A stop where no session is running** does nothing. -/
theorem ignores_stop (hr : c.session.requests = []) (hp : c.session.phase ≠ .running) :
    c.Ignores .stop := by
  constructor
  · rw [act, Session.stop_of_ne hp]
    split
    · exact settle_eq_self hr
    · rfl
  · rw [turn, Session.stop_of_ne hp]
    split
    · simp [hr, Turn.ofRequests]
    · rfl

/-- **A start where there is a session** only says so. -/
theorem act_start_of_session (hr : c.session.requests = []) (hf : c.point = .free)
    {profile : Profile} (hv : profile.validate = .ok ()) (hp : c.session.phase ≠ .stopped)
    (mode : Option Mode) (threadError : Option IoError) :
    c.answer? (.start profile mode threadError) = some (.ok .alreadyRunning) ∧
    (c.turn (.start profile mode threadError)).asks = [] ∧
    c.act (.start profile mode threadError) = c.withSession { c.session with
      logs := (c.session.logs.push (.notice "proxy already started")).1
      events := c.session.events ++ [.line (.notice "proxy already started")] } := by
  have hstart : c.controller.start profile mode threadError c.world =
      (.ok .alreadyRunning,
        { c.controller with session := c.session.notify "proxy already started" }, c.world) := by
    rw [Controller.start, hv]
    exact if_pos hp
  have hq : (c.session.notify "proxy already started").requests = [] := by
    rw [Session.notify_eq]
    exact hr
  refine ⟨?_, ?_, ?_⟩
  · rw [answer?, if_pos hf, hstart]
  · rw [turn, if_pos hf, hstart]
    simp [hq, Turn.ofRequests]
  · rw [act, if_pos hf, hstart, ← Session.notify_eq]
    exact settle_eq_self (c := c.withSession _) hq

theorem store_foldl_perform (requests : List Request) (c : Scene W) :
    (requests.foldl perform c).controller.store = c.controller.store ∧
      (requests.foldl perform c).world = c.world := by
  induction requests generalizing c with
  | nil => exact ⟨rfl, rfl⟩
  | cons r requests ih =>
    have hone : (c.perform r).controller.store = c.controller.store ∧
        (c.perform r).world = c.world := by
      cases r <;> exact ⟨rfl, rfl⟩
    exact ⟨(ih _).1.trans hone.1, (ih _).2.trans hone.2⟩

/-- **A start that is not refused** saves the profile, and makes the start call with what the profile
and the options give, whether or not the profile was saved. -/
theorem act_start_of_rest (hr : c.session.requests = []) (hf : c.point = .free)
    {profile : Profile} (hv : profile.validate = .ok ()) (hp : c.session.phase = .stopped)
    (mode : Option Mode) :
    c.answer? (.start profile mode none) = some (.ok .launched) ∧
    (c.turn (.start profile mode none)).asks =
      [.launch (c.session.generation + 1) (c.session.startParams profile)] ∧
    (c.act (.start profile mode none)).controller.store =
      (c.controller.store.save profile c.world).2.1 ∧
    (c.act (.start profile mode none)).world = (c.controller.store.save profile c.world).2.2 := by
  let s := { c.session with pendingMode := mode.getD c.session.pendingMode }
  have hstart := Controller.start_of_rest (c := c.controller) hv hp mode none c.world
  have hq : (s.launch profile none).2.requests =
      [.launch (c.session.generation + 1) (c.session.startParams profile)] := by
    rw [Session.launch_none_eq]
    exact congrArg (· ++ _) hr
  refine ⟨?_, ?_, ?_⟩
  · rw [answer?, if_pos hf, hstart]
    rfl
  · rw [turn, if_pos hf, hstart]
    exact congrArg (fun l => (Turn.ofRequests l).asks) hq
  · rw [act, if_pos hf, hstart]
    exact store_foldl_perform _ _

/-- A start whose thread cannot be created calls no engine, and says why. -/
theorem act_start_of_thread_error (hr : c.session.requests = []) (hf : c.point = .free)
    {profile : Profile} (hv : profile.validate = .ok ()) (hp : c.session.phase = .stopped)
    (mode : Option Mode) (e : IoError) :
    c.answer? (.start profile mode (some e)) = some (.error (.spawn e)) ∧
    (c.turn (.start profile mode (some e))).asks = [] := by
  let s := { c.session with pendingMode := mode.getD c.session.pendingMode }
  have hstart := Controller.start_of_rest (c := c.controller) hv hp mode (some e) c.world
  have hq : (s.launch profile (some e)).2.requests = [] := by
    rw [Session.launch_some_eq]
    exact hr
  constructor
  · rw [answer?, if_pos hf, hstart]
    rfl
  · rw [turn, if_pos hf, hstart]
    exact congrArg (fun l => (Turn.ofRequests l).asks) hq

/-! ## The start calls of a run -/

/-- The start calls among requests, with their parameters. -/
def startCallsOf (requests : List Request) : List (Nat × StartParams) :=
  requests.filterMap fun
    | .launch generation params => some (generation, params)
    | _ => none

/-- The start calls that a list of actions makes, with their parameters. -/
def launches : Scene W → List Action → List (Nat × StartParams)
  | _, [] => []
  | c, a :: actions => startCallsOf (c.turn a).asks ++ (c.act a).launches actions

/-- The profile of a start that is answered by a launch. -/
def accepted? (c : Scene W) : Action → Option Profile
  | .start profile mode threadError =>
    if (c.answer? (.start profile mode threadError)).any wasLaunched then some profile else none
  | _ => none

/-- The profiles of the starts of a list of actions that are answered by a launch. -/
def accepted : Scene W → List Action → List Profile
  | _, [] => []
  | c, a :: actions => (c.accepted? a).toList ++ (c.act a).accepted actions

theorem startCallsOf_ofRequests (requests : List Request) :
    startCallsOf (Turn.ofRequests requests).asks = startCallsOf requests := by
  induction requests with
  | nil => rfl
  | cons r requests ih =>
    cases r <;> simpa [startCallsOf, Turn.ofRequests, Request.isForStream] using ih

theorem startCallsOf_eq_nil {requests : List Request}
    (h : requests.countP Request.isLaunch = 0) : startCallsOf requests = [] := by
  rw [startCallsOf, List.filterMap_eq_nil_iff]
  intro r hr
  have hr' := List.countP_eq_zero.1 h r hr
  cases r <;> first | rfl | exact absurd rfl hr'

/-- Every request for a start call makes one. -/
theorem made_settle (c : Scene W) :
    c.settle.made = c.made ++ (startCallsOf c.session.requests).map Prod.fst := by
  have hfold (requests : List Request) (c : Scene W) :
      (requests.foldl perform c).made = c.made ++ (startCallsOf requests).map Prod.fst := by
    induction requests generalizing c with
    | nil => simp [startCallsOf]
    | cons r requests ih =>
      rw [List.foldl_cons, ih]
      cases r <;> simp [perform, startCallsOf]
  exact hfold _ _

/-- What asks for no start call makes none. -/
theorem made_settle_withSession {s : Session} (hs : s.requests.countP Request.isLaunch = 0) :
    startCallsOf (Turn.ofRequests s.requests).asks = [] ∧
      (c.withSession s).settle.made = c.made := by
  have hcalls := startCallsOf_eq_nil hs
  constructor
  · rw [startCallsOf_ofRequests, hcalls]
  · rw [made_settle]
    simp [withSession, session, hcalls]

/-- What is no start makes no start call. -/
theorem made_act_of_ne_start (hr : c.session.requests = []) {a : Action}
    (ha : ∀ profile mode threadError, a ≠ .start profile mode threadError) :
    startCallsOf (c.turn a).asks = [] ∧ (c.act a).made = c.made := by
  cases a with
  | start profile mode threadError => exact absurd rfl (ha profile mode threadError)
  | stop =>
    rw [turn, act]
    split
    · refine made_settle_withSession ?_
      by_cases hp : c.session.phase = .running
      · rw [Session.stop_eq hp, hr]
        cases c.session.holdsStream <;> rfl
      · rw [Session.stop_of_ne hp, hr]
        rfl
    · exact ⟨rfl, rfl⟩
  | switchMode mode =>
    rw [turn, act]
    split
    · refine made_settle_withSession ?_
      rw [Session.switchMode_eq, hr]
      split <;> rfl
    · exact ⟨rfl, rfl⟩
  | setMitm on =>
    rw [turn, act]
    split
    · refine made_settle_withSession ?_
      rw [Session.setMitm_eq, hr]
      split <;> rfl
    · exact ⟨rfl, rfl⟩
  | proceed name =>
    cases hp : c.point with
    | free =>
      rw [turn, act, hp]
      exact ⟨rfl, rfl⟩
    | busy errand stage =>
      rw [turn, act, hp]
      have htake := Session.countP_requests_takeNext name stage c.session
      rw [hr] at htake
      have hcalls := startCallsOf_eq_nil htake
      constructor
      · dsimp only
        split
        · rfl
        · rw [startCallsOf_ofRequests, hcalls]
      · dsimp only
        unfold proceed
        split
        · cases errand with
          | polling => rfl
          | waiting target =>
            dsimp only
            split <;> rfl
        · split
          · rfl
          · refine (made_settle _).trans ?_
            exact (congrArg (fun l => c.made ++ l.map Prod.fst) hcalls).trans (List.append_nil _)
  | call errand => rw [turn, act]; split <;> exact ⟨rfl, rfl⟩
  | timeOut => rw [turn, act]; split <;> exact ⟨rfl, rfl⟩
  | fire generation => rw [turn, act]; split <;> exact ⟨rfl, rfl⟩
  | giveBack generation status => rw [turn, act]; split <;> exact ⟨rfl, rfl⟩
  | advance index answers => rw [turn, act]; split <;> exact ⟨rfl, rfl⟩

theorem made_act_start (c : Scene W) (profile : Profile) (mode : Option Mode)
    (threadError : Option IoError) :
    (c.act (.start profile mode threadError)).made =
      c.made ++ (startCallsOf (c.turn (.start profile mode threadError)).asks).map Prod.fst := by
  rw [act, turn]
  split
  · rw [made_settle, startCallsOf_ofRequests]
    rfl
  · exact (List.append_nil _).symm

/-- **A start makes a start call** exactly if it is answered so, with what its profile and the options
give. -/
theorem startCallsOf_start (hr : c.session.requests = []) (profile : Profile) (mode : Option Mode)
    (threadError : Option IoError) :
    let a := Action.start profile mode threadError
    startCallsOf (c.turn a).asks = (c.accepted? a).toList.map (fun p =>
        (c.session.generation + 1, c.session.startParams p)) ∧
      ∀ p ∈ c.accepted? a, p.validate = .ok () := by
  intro a
  by_cases hf : c.point = .free
  · cases hv : profile.validate with
    | error e =>
      simp [a, accepted?, answer?_of_invalid hf hv, (ignores_start hr hv mode threadError).2,
        startCallsOf, wasLaunched]
    | ok _ =>
      by_cases hp : c.session.phase = .stopped
      · cases threadError with
        | none =>
          obtain ⟨hanswer, hasks, -⟩ := act_start_of_rest hr hf hv hp mode
          simp [a, accepted?, hanswer, hasks, startCallsOf, wasLaunched, hv]
        | some e =>
          obtain ⟨hanswer, hasks⟩ := act_start_of_thread_error hr hf hv hp mode e
          simp [a, accepted?, hanswer, hasks, startCallsOf, wasLaunched]
      · obtain ⟨hanswer, hasks, -⟩ := act_start_of_session hr hf hv hp mode threadError
        simp [a, accepted?, hanswer, hasks, startCallsOf, wasLaunched]
  · simp [a, accepted?, answer?, turn, hf, startCallsOf, Turn.none]

/-- **The start calls of an action** are one for each start that is answered so. -/
theorem launches_act (hr : c.session.requests = []) (a : Action) :
    startCallsOf (c.turn a).asks = (c.accepted? a).toList.map (fun p =>
        (c.session.generation + 1, c.session.startParams p)) ∧
      (∀ p ∈ c.accepted? a, p.validate = .ok ()) ∧
      (c.act a).made = c.made ++ (startCallsOf (c.turn a).asks).map Prod.fst := by
  by_cases ha : ∃ profile mode threadError, a = .start profile mode threadError
  · obtain ⟨profile, mode, threadError, rfl⟩ := ha
    obtain ⟨hcalls, hvalid⟩ := startCallsOf_start hr profile mode threadError
    exact ⟨hcalls, hvalid, c.made_act_start profile mode threadError⟩
  · have hne : ∀ profile mode threadError, a ≠ .start profile mode threadError :=
      fun profile mode threadError heq => ha ⟨profile, mode, threadError, heq⟩
    obtain ⟨hcalls, hmade⟩ := made_act_of_ne_start hr hne
    have hnone : c.accepted? a = none := by
      cases a with
      | start profile mode threadError => exact absurd rfl (hne profile mode threadError)
      | _ => rfl
    rw [hcalls, hmade, hnone]
    exact ⟨rfl, nofun, (List.append_nil _).symm⟩

/-- **The start calls of a run** are those of the starts that were answered so, in their order, each
with what its profile and the options give. -/
theorem launches_run (hr : c.session.requests = []) (actions : List Action) :
    (c.run actions).made = c.made ++ (c.launches actions).map Prod.fst ∧
      (c.launches actions).map Prod.snd = (c.accepted actions).map c.session.startParams ∧
      ∀ p ∈ c.accepted actions, p.validate = .ok () := by
  induction actions generalizing c with
  | nil => exact ⟨(List.append_nil _).symm, rfl, nofun⟩
  | cons a actions ih =>
    obtain ⟨hcalls, hvalid, hmade⟩ := launches_act hr a
    obtain ⟨hmades, hparams, hvalids⟩ := ih (requests_act hr a)
    have hoptions : (c.act a).session.startParams = c.session.startParams := by
      funext p
      simp only [Session.startParams, options_act]
    refine ⟨?_, ?_, fun p hp => ?_⟩
    · rw [launches, List.map_append, ← List.append_assoc, ← hmade]
      exact hmades
    · rw [launches, accepted, List.map_append, List.map_append, hcalls, hparams, hoptions,
        List.map_map]
      rfl
    · rcases List.mem_append.1 hp with hp | hp
      · exact hvalid p (Option.mem_toList.1 hp)
      · exact hvalids p hp

/-! ## What holds after every run -/

/-- How a controller with the options meets a start and a stop when its caller asks for one. -/
structure Screens (options : SessionOptions) (c : Scene W) : Prop where
  /-- A profile that cannot be used is told of in every phase, and nothing is done. -/
  invalid : ∀ (profile : Profile) (mode : Option Mode) (threadError : Option IoError)
    (e : ProfileError), profile.validate = .error e →
      c.answer? (.start profile mode threadError) = some (.error (.invalidProfile e)) ∧
      c.Ignores (.start profile mode threadError)
  /-- Where there is a session, a start has one notice as its effect. -/
  already : ∀ (profile : Profile) (mode : Option Mode) (threadError : Option IoError),
    profile.validate = .ok () → c.session.phase ≠ .stopped →
      c.answer? (.start profile mode threadError) = some (.ok .alreadyRunning) ∧
      (c.turn (.start profile mode threadError)).asks = [] ∧
      c.act (.start profile mode threadError) = c.withSession { c.session with
        logs := (c.session.logs.push (.notice "proxy already started")).1
        events := c.session.events ++ [.line (.notice "proxy already started")] }
  /-- Only a running session is stopped. -/
  stop : c.session.phase ≠ .running →
    c.session.stop.1 = .error (.invalidTransition "stop" c.session.phase) ∧ c.Ignores .stop
  /-- The engine is called with the profile and the options, whether or not the profile is saved; if
  it is not, the working set stays as it was. -/
  launched : ∀ (profile : Profile) (mode : Option Mode),
    profile.validate = .ok () → c.session.phase = .stopped →
      c.answer? (.start profile mode none) = some (.ok .launched) ∧
      (c.turn (.start profile mode none)).asks = [.launch (c.session.generation + 1)
        (.ofProfile profile options.logLevel options.dnsCacheSize options.routeList)] ∧
      (c.act (.start profile mode none)).controller.store =
        (c.controller.store.save profile c.world).2.1 ∧
      ∀ e, (c.controller.store.save profile c.world).1 = .error e →
        (c.act (.start profile mode none)).controller.store = c.controller.store
  /-- Without a thread for the call the engine is not called. -/
  threadless : ∀ (profile : Profile) (mode : Option Mode) (e : IoError),
    profile.validate = .ok () → c.session.phase = .stopped →
      c.answer? (.start profile mode (some e)) = some (.error (.spawn e)) ∧
      (c.turn (.start profile mode (some e))).asks = []

theorem Screens.of_free {options : SessionOptions} (ho : c.session.options = options)
    (hr : c.session.requests = []) (hf : c.point = .free) : c.Screens options where
  invalid _ mode threadError _ hv :=
    ⟨answer?_of_invalid hf hv mode threadError, ignores_start hr hv mode threadError⟩
  already _ mode threadError hv hp := act_start_of_session hr hf hv hp mode threadError
  stop hp := ⟨congrArg Prod.fst (if_pos hp), ignores_stop hr hp⟩
  launched _ mode hv hp := by
    obtain ⟨hanswer, hasks, hstore, -⟩ := act_start_of_rest hr hf hv hp mode
    rw [Session.startParams, ho] at hasks
    exact ⟨hanswer, hasks, hstore, fun e he => hstore.trans (ProfileStore.save_of_error he)⟩
  threadless _ mode e hv hp := act_start_of_thread_error hr hf hv hp mode e

theorem options_run (c : Scene W) (actions : List Action) :
    (c.run actions).session.options = c.session.options := by
  induction actions generalizing c with
  | nil => rfl
  | cons a actions ih => exact (ih (c.act a)).trans (c.options_act a)

theorem requests_run (hr : c.session.requests = []) (actions : List Action) :
    (c.run actions).session.requests = [] := by
  induction actions generalizing c with
  | nil => exact hr
  | cons a actions ih => exact ih (requests_act hr a)

/-- **Requests that are refused change nothing.** After every run the start calls that were made are
those of the starts that were answered by a launch, in their order; each has what its profile and the
options give, and its profile can be used. Between two calls of its caller the controller meets every
further start and stop so, whatever the caller has made of the saved profiles and wherever they are
kept. -/
theorem refused_run (store : ProfileStore W) (options : SessionOptions) (w : W)
    (actions : List Action) :
    let fresh := idle store options w
    let started := fresh.run actions
    started.made = (fresh.launches actions).map Prod.fst ∧
    (fresh.launches actions).map Prod.snd = (fresh.accepted actions).map (fun p =>
      .ofProfile p options.logLevel options.dnsCacheSize options.routeList) ∧
    (∀ p ∈ fresh.accepted actions, p.validate = .ok ()) ∧
    ∀ store' w', started.point = .free → (started.withStore store' w').Screens options := by
  intro fresh started
  have hr : fresh.session.requests = [] := rfl
  obtain ⟨hmade, hparams, hvalid⟩ := launches_run hr actions
  refine ⟨hmade, hparams, hvalid, fun store' w' hf => ?_⟩
  exact Screens.of_free (c := started.withStore store' w') (options_run fresh actions)
    (requests_run hr actions) hf

/-- A store whose profiles cannot be written. -/
def unwritableStore : ProfileStore Unit :=
  .ofBackend ⟨"", fun w => (.ok [], w), fun _ w => (.error (.io "" "write" .notFound), w)⟩

def usableProfile : Profile := { Profile.new "h:1" with key := "k" }

/-- With a store that cannot be written the engine is called all the same; from then on a start is
told that there is a session, one without a server is refused, and so is a stop. -/
theorem refused_run_unwritable :
    let started := (idle unwritableStore ⟨.log, 0, "", 1⟩ ()).run [.start usableProfile none none]
    started.made = [1] ∧ started.controller.store = unwritableStore ∧
      started.answer? (.start usableProfile (some .global) none) = some (.ok .alreadyRunning) ∧
      (started.act (.start usableProfile (some .global) none)).session.pendingMode = .iplist ∧
      started.answer? (.start (Profile.new " ") none none) =
        some (.error (.invalidProfile (.missingField "server address"))) ∧
      started.Ignores (.start (Profile.new " ") none none) ∧ started.Ignores .stop := by
  intro started
  obtain ⟨-, -, -, hrest⟩ := refused_run unwritableStore ⟨.log, 0, "", 1⟩ () []
  obtain ⟨-, -, -, hstarted⟩ :=
    refused_run unwritableStore ⟨.log, 0, "", 1⟩ () [.start usableProfile none none]
  obtain ⟨-, -, -, hunsaved⟩ := (hrest unwritableStore () rfl).launched usableProfile none rfl rfl
  have hscreens := hstarted unwritableStore () rfl
  obtain ⟨hanswer, -, hact⟩ := hscreens.already usableProfile (some .global) none rfl (by decide)
  obtain ⟨hinvalid, hignored⟩ := hscreens.invalid (Profile.new " ") none none _ rfl
  refine ⟨rfl, hunsaved _ rfl, hanswer, ?_, hinvalid, hignored, (hscreens.stop (by decide)).2⟩
  exact (congrArg (fun c : Scene Unit => c.session.pendingMode) hact).trans rfl

end Scene

end ProxyControl
