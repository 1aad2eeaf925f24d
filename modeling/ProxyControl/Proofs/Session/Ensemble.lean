import ProxyControl.Engine.Memory
import ProxyControl.Proofs.Session.Desk
import Mathlib.Logic.Function.Basic

/-!
# A controller and the engine in memory

A controller, the engine in memory, the threads of the start calls and the delayed switches of
inspection are put together here, and nobody else uses the engine. Each call of the engine is a
step of its own: the controller makes the calls that it was asked for one after another, and
anything may happen between them. Each start call goes through its steps in order, and the session
of the engine may come to its end at any time.

A start call that was made for an earlier session has returned before the next one is made, so the
engine serves the latest session if it serves any, and it has begun to serve before its readiness
can be taken.

## Main definitions

* `CallPoint`: how far a start call is
* `Ensemble`: all parties, and what was applied
* `Ensemble.act`, `Ensemble.run`: what may happen, and what it leads to
* `Desk.Placed`: how the start call of the latest session goes with what the controller knows of it

## Main results

* `Scene.Orderly.act`: what holds of a scene after every run
* `Ensemble.Placed.act`: every step keeps the start call of the latest session in its place
-/

set_option autoImplicit false

namespace ProxyControl

/-- How far a start call is. -/
inductive CallPoint where
  /-- The thread is there, and the engine was not called. -/
  | called (params : StartParams)
  /-- The engine serves, and readiness was not fired. -/
  | announcing
  /-- The call waits for the end of the session. -/
  | blocked
  | returning (status : Status)
  deriving DecidableEq, Repr

namespace CallPoint

/-- Whether the engine serves the session of the call. -/
def isServing : CallPoint → Bool
  | .announcing | .blocked => true
  | .called _ | .returning _ => false

/-- Whether readiness cannot be fired any more. -/
def isPast : CallPoint → Bool
  | .blocked | .returning _ => true
  | .called _ | .announcing => false

end CallPoint

namespace MemoryEngine

/-- A call that the controller makes, carried out. -/
def carry (e : MemoryEngine) : Request → MemoryEngine
  | .stopEngine => e.requestEnd .stopped
  | .switchMode constant => (e.switchMode constant).2
  | .setMitm on => e.setMitm on
  | .launch _ _ | .openStream _ | .stopStream | .joinStream | .delayMitm _ => e

/-- What the engine answers to a log stream. -/
def answers (e : MemoryEngine) (slices : Nat) (point : StreamPoint) : StreamAnswers where
  length := e.logLength
  entry :=
    match point with
    | .reading _ index _ => e.logs.read index
    | _ => .blank
  slices := slices

/-- The engine after the call that a log stream makes. -/
def served (e : MemoryEngine) : StreamPoint → MemoryEngine
  | .trimming _ index | .leaving _ index => { e with logs := e.logs.dropThrough index }
  | _ => e

/-- What of the engine is agreed on: whether it serves, its mode and its inspection, and which
switches of the mode it received. -/
def face (e : MemoryEngine) : Bool × Option UInt32 × Bool × List UInt32 :=
  (e.running, e.mode, e.mitm, e.modeCalls)

theorem face_requestEnd (ending : Ending) (e : MemoryEngine) :
    (e.requestEnd ending).face = e.face := by
  unfold requestEnd
  split <;> rfl

theorem face_push (entry : LogEntry) (e : MemoryEngine) : (e.push entry).face = e.face := by
  unfold push
  split <;> rfl

theorem face_served (e : MemoryEngine) (point : StreamPoint) : (e.served point).face = e.face := by
  cases point <;> rfl

theorem switchMode_eq (constant : UInt32) (e : MemoryEngine) :
    (e.switchMode constant).2 = { e with
      mode := if e.running then some constant else e.mode
      modeCalls := e.modeCalls ++ [constant] } := by
  unfold switchMode
  cases h : e.running <;> simp

theorem setMitm_eq (on : Bool) (e : MemoryEngine) :
    e.setMitm on = { e with
      mitm := if e.running then on else e.mitm
      mitmCalls := e.mitmCalls ++ [on] } := by
  unfold setMitm
  cases h : e.running <;> simp

theorem running_carry (e : MemoryEngine) (r : Request) : (e.carry r).running = e.running := by
  cases r with
  | stopEngine => exact congrArg Prod.fst (face_requestEnd .stopped e)
  | switchMode constant => rw [carry, switchMode_eq]
  | setMitm on => rw [carry, setMitm_eq]
  | _ => rfl

/-- A start call that reaches an engine which serves nobody. -/
theorem start_cases {e : MemoryEngine} (h : e.running = false) (now : Nat) (params : StartParams) :
    (∃ engine, e.start now params = (.refused .createFailed, engine) ∧ engine.face = e.face) ∨
      ∃ engine, e.start now params = (.serving, engine) ∧ engine.running = true ∧
        engine.modeCalls = e.modeCalls := by
  unfold start
  dsimp only
  rw [if_neg (by simp [h])]
  split
  · exact .inl ⟨_, rfl, rfl⟩
  · exact .inr ⟨_, rfl, rfl, rfl⟩

/-- A start call that returns leaves an engine which serves nobody. -/
theorem of_finish?_eq_some {e engine : MemoryEngine} {status : Status}
    (h : e.finish? = some (status, engine)) :
    engine.running = false ∧ engine.modeCalls = e.modeCalls := by
  unfold finish? at h
  split at h
  · obtain ⟨ending, -, heq⟩ := Option.map_eq_some_iff.1 h
    obtain ⟨-, rfl⟩ := Prod.mk.inj heq
    exact ⟨rfl, rfl⟩
  · cases h

end MemoryEngine

/-- A controller, the engine in memory, and what runs beside them. -/
structure Ensemble (W : Type) where
  scene : Scene W
  engine : MemoryEngine
  /-- How far the start call of each generation is, while it has not returned. -/
  place : Nat → CallPoint
  /-- The calls of the engine that the controller has to make before it goes on. -/
  orders : List Request
  /-- The generations with a delayed switch of inspection that is outstanding. -/
  delayed : List Nat
  /-- The values of all changes of inspection that were applied, with their generations. -/
  toggles : List (Nat × Bool)
  /-- How many changes of the mode were applied. -/
  switches : Nat
  /-- The generations of the delayed switches that called the engine, with the generation of the
  latest session then. -/
  fired : List (Nat × Nat)

namespace Ensemble

/-- A controller and an engine that were never used. -/
def idle {W : Type} (store : ProfileStore W) (options : SessionOptions) (w : W) : Ensemble W where
  scene := .idle store options w
  engine := .idle
  place _ := .returning .exited
  orders := []
  delayed := []
  toggles := []
  switches := 0
  fired := []

/-- What may happen. -/
inductive Move where
  /-- The controller is called, as in a scene. -/
  | start (profile : Profile) (mode : Option Mode) (threadError : Option IoError)
  | stop
  | switchMode (mode : Mode)
  | setMitm (on : Bool)
  | call (errand : Errand)
  /-- The controller goes on with the call that is under way. -/
  | proceed
  | timeOut
  /-- The controller makes the next call of the engine that it has to make. -/
  | carryOut
  /-- A start call reaches the engine. -/
  | enter (generation now : Nat)
  /-- A start call fires readiness. -/
  | announce (generation : Nat)
  /-- A start call notices that its session is to end. -/
  | leave (generation : Nat)
  /-- A start call returns. -/
  | giveBack (generation : Nat)
  /-- The delay of a switch of inspection is over. -/
  | endDelay (generation : Nat)
  /-- The log stream with a number makes a step. -/
  | advance (index slices : Nat)
  /-- The session of the engine comes to its end by itself. -/
  | quit (ending : Ending)
  /-- The engine has a record. -/
  | push (entry : LogEntry)
  | setFailCreation (fails : Bool)

/-- The start calls among requests put at their beginning. -/
def assign (place : Nat → CallPoint) : Request → Nat → CallPoint
  | .launch generation params => Function.update place generation (.called params)
  | _ => place

/-- Whether a request is for a call of the engine that the controller makes itself. -/
def isOrder : Request → Bool
  | .stopEngine | .switchMode _ | .setMitm _ => true
  | .launch _ _ | .openStream _ | .stopStream | .joinStream | .delayMitm _ => false

/-- The generation of a delayed switch that is asked for. -/
def delayOf? : Request → Option Nat
  | .delayMitm generation => some generation
  | _ => none

variable {W : Type}

/-- The controller makes a step, unless it has to call the engine first. -/
def control (a : Action) (m : Ensemble W) : Ensemble W :=
  if m.orders = [] then
    let turn := m.scene.turn a
    { m with
      scene := m.scene.act a
      place := turn.asks.foldl assign m.place
      orders := turn.asks.filter isOrder
      delayed := m.delayed ++ turn.asks.filterMap delayOf?
      toggles := turn.addToggle m.scene.session.generation m.toggles
      switches := m.switches + turn.switched.toNat }
  else m

/-- How far the start call of a generation is, if it has not returned. -/
def callAt (m : Ensemble W) (generation : Nat) : Option CallPoint :=
  if generation ∈ m.scene.calls then some (m.place generation) else none

/-- The start call of a generation at another point. -/
def moveCall (generation : Nat) (point : CallPoint) (m : Ensemble W) : Ensemble W :=
  { m with place := Function.update m.place generation point }

/-- What a move leads to; one that cannot happen changes nothing. -/
def act (m : Ensemble W) : Move → Ensemble W
  | .start profile mode threadError => m.control (.start profile mode threadError)
  | .stop => m.control .stop
  | .switchMode mode => m.control (.switchMode mode)
  | .setMitm on => m.control (.setMitm on)
  | .call errand => m.control (.call errand)
  | .proceed => m.control (.proceed m.engine.nickname)
  | .timeOut => m.control .timeOut
  | .carryOut =>
    match m.orders with
    | [] => m
    | r :: rest => { m with engine := m.engine.carry r, orders := rest }
  | .enter generation now =>
    match m.callAt generation with
    | some (.called params) =>
      let (launch, engine) := m.engine.start now params
      { m with engine := engine }.moveCall generation
        (launch.returned.elim .announcing .returning)
    | _ => m
  | .announce generation =>
    if m.callAt generation = some .announcing then
      { m with scene := m.scene.act (.fire generation) }.moveCall generation .blocked
    else m
  | .leave generation =>
    if m.callAt generation = some .blocked then
      match m.engine.finish? with
      | some (status, engine) =>
        { m with engine := engine }.moveCall generation (.returning status)
      | none => m
    else m
  | .giveBack generation =>
    match m.callAt generation with
    | some (.returning status) => { m with scene := m.scene.act (.giveBack generation status) }
    | _ => m
  | .endDelay generation =>
    if generation ∈ m.delayed then
      let m := { m with delayed := m.delayed.erase generation }
      if m.scene.session.live = some generation then
        { m with
          engine := m.engine.setMitm true
          fired := m.fired ++ [(generation, m.scene.session.generation)] }
      else m
    else m
  | .advance index slices =>
    match m.scene.streams[index]? with
    | some stream =>
      { m with
        scene := m.scene.act (.advance index (m.engine.answers slices stream.point))
        engine := m.engine.served stream.point }
    | none => m
  | .quit ending => { m with engine := m.engine.requestEnd ending }
  | .push entry => { m with engine := m.engine.push entry }
  | .setFailCreation fails => { m with engine := m.engine.setFailCreation fails }

/-- What a list of moves leads to. -/
def run (m : Ensemble W) (moves : List Move) : Ensemble W := moves.foldl act m

end Ensemble

/-! ## The scene of an ensemble -/

/-- The start call of the latest session may be in flight while there is a session, and no other
one. -/
theorem Tableau.Standing.calls_cases {t : Tableau} {pending : List LogRecord}
    (h : t.Standing pending) : t.calls = [] ∨ t.phase ≠ .stopped ∧ t.calls = [t.generation] := by
  have hunderway {traffic : List Message} {pending : List LogRecord}
      (hu : Underway t.generation t.calls traffic pending) :
      t.calls = [] ∨ t.calls = [t.generation] := by
    generalize t.calls = calls at hu
    cases hu with
    | calling => exact .inr rfl
    | returned => exact .inl rfl
  cases h with
  | stopped _ _ _ calls => exact .inl calls
  | starting phase _ _ underway =>
    exact (hunderway underway).imp_right fun hc => ⟨by simp [phase], hc⟩
  | serving phase _ _ underway =>
    exact (hunderway underway).imp_right fun hc => ⟨Phase.ne_stopped_of_serving phase, hc⟩
  | ending _ _ _ _ calls => exact .inl calls

namespace Scene

variable {W : Type} {c : Scene W}

/-- What holds of a scene after every run. -/
structure Orderly (c : Scene W) : Prop where
  requests : c.session.requests = []
  holdings : c.Holdings
  standing : ∃ sessions last seen pending,
    c.tableau.Chronicle True sessions last seen pending

theorem Orderly.idle (store : ProfileStore W) (options : SessionOptions) (w : W) :
    (Scene.idle store options w).Orderly :=
  ⟨rfl, Session.Holdings.idle options, _, _, _, _, chronicle_idle True store options w⟩

theorem Orderly.act (h : c.Orderly) (a : Action) : (c.act a).Orderly := by
  obtain ⟨_, _, _, _, hc⟩ := h.standing
  exact ⟨requests_act h.requests a, h.holdings.act hc.standing a,
    hc.step (act_step h.requests a fun _ => trivial)⟩

theorem Orderly.calls_cases (h : c.Orderly) :
    c.calls = [] ∨ c.desk.phase ≠ .stopped ∧ c.calls = [c.desk.generation] := by
  obtain ⟨_, _, _, _, hc⟩ := h.standing
  exact hc.standing.calls_cases

theorem Orderly.eq_of_mem_calls (h : c.Orderly) {generation : Nat} (hc : generation ∈ c.calls) :
    generation = c.desk.generation := by
  rcases h.calls_cases with hcalls | ⟨-, hcalls⟩
  · rw [hcalls] at hc
    cases hc
  · rw [hcalls] at hc
    exact List.mem_singleton.1 hc

end Scene

/-! ## The place of a start call -/

namespace Desk

/-- How the start call of the latest session, where the calls are at the given points and the engine
serves a session or not, goes with what the controller knows of it. -/
structure Placed (d : Desk) (place : Nat → CallPoint) (running : Bool) : Prop where
  /-- The engine serves the latest session, or none. -/
  serving : running = true ↔ d.generation ∈ d.calls ∧ (place d.generation).isServing = true
  /-- Readiness is taken only after it was fired. -/
  past : d.generation ∈ d.readies ∨ d.phase = .running ∨ d.phase = .stopping →
    d.generation ∈ d.calls → (place d.generation).isPast = true
  known : ∀ generation ∈ d.readies, generation ≤ d.generation
  /-- Only the latest session may have a delayed switch. -/
  live : ∀ generation, d.live = some generation →
    generation = d.generation ∧ d.phase = .running

namespace Placed

variable {d d' : Desk} {place : Nat → CallPoint} {running : Bool}

/-- The next session has no start call that reached the engine. -/
theorem next (h : d.Placed place running) (hp : d.phase = .stopped) (hc : d.calls = []) :
    running = false ∧ d.generation + 1 ∉ d.readies ∧ d.live = none := by
  refine ⟨?_, fun hr => ?_, ?_⟩
  · rw [← Bool.not_eq_true, h.serving, hc]
    simp
  · exact absurd (h.known _ hr) (Nat.not_succ_le_self _)
  · rw [Option.eq_none_iff_forall_not_mem]
    intro generation hl
    obtain ⟨-, hrun⟩ := h.live generation hl
    cases hp.symm.trans hrun

/-- **A step of the controller keeps the start call in its place.** -/
theorem step (h : d.Placed place running) {turn : Turn} (hs : d.Step turn d')
    (hc : d.phase = .stopped → d.calls = []) :
    d'.Placed (turn.asks.foldl Ensemble.assign place) running := by
  cases hs with
  | stay => exact h
  | launch params mode hp =>
    obtain ⟨hrun, hready, hlive⟩ := h.next hp (hc hp)
    constructor
    · simp [hrun, Ensemble.assign, CallPoint.isServing]
    · simp [hready]
    · exact fun generation hg => Nat.le_succ_of_le (h.known generation hg)
    · simp [hlive]
  | abort mode hp =>
    obtain ⟨hrun, hready, hlive⟩ := h.next hp (hc hp)
    constructor
    · simp [hrun, hc hp]
    · simp [hc hp]
    · exact fun generation hg => Nat.le_succ_of_le (h.known generation hg)
    · simp [hlive]
  | stop hp =>
    exact ⟨h.serving, fun _ => h.past (.inr (.inl hp)), h.known, nofun⟩
  | queueMode mode hp => exact ⟨h.serving, h.past, h.known, h.live⟩
  | switchMode mode hp => exact ⟨h.serving, h.past, h.known, h.live⟩
  | setMitm on hp => exact ⟨h.serving, h.past, h.known, nofun⟩
  | @ready rest delays hp hr =>
    have hplace : (Turn.asks ⟨.switchMode d.mode.constant ::
        if delays then [.delayMitm d.generation] else [], none, false⟩).foldl
          Ensemble.assign place = place := by
      cases delays <;> rfl
    have hmem : d.generation ∈ d.readies := by
      rw [hr]
      exact List.mem_cons_self
    rw [hplace]
    refine ⟨h.serving, fun _ => h.past (.inl hmem), fun generation hg => ?_, ?_⟩
    · exact h.known generation (by rw [hr]; exact List.mem_cons_of_mem _ hg)
    · rintro generation ⟨⟩
      exact ⟨rfl, rfl⟩
  | @skip g rest hr =>
    have hmem {generation : Nat} (hg : generation ∈ rest) : generation ∈ d.readies := by
      rw [hr]
      exact List.mem_cons_of_mem _ hg
    exact ⟨h.serving, fun hready => h.past (hready.imp_left hmem),
      fun generation hg => h.known generation (hmem hg), h.live⟩
  | close => exact ⟨h.serving, h.past, h.known, nofun⟩
  | finish =>
    refine ⟨h.serving, fun hready => h.past (.inl ?_), h.known, nofun⟩
    simpa using hready

/-- The start call of the latest session is elsewhere. -/
theorem move (h : d.Placed place running) {point : CallPoint} {running' : Bool}
    (hc : d.generation ∈ d.calls) (hs : running' = point.isServing)
    (hp : (place d.generation).isPast = true → point.isPast = true) :
    d.Placed (Function.update place d.generation point) running' where
  serving := by simp [hs, hc]
  past hready hmem := by
    rw [Function.update_self]
    exact hp (h.past hready hmem)
  known := h.known
  live := h.live

/-- Readiness is fired. -/
theorem fire (h : d.Placed place running) (hp : (place d.generation).isPast = true) :
    Placed { d with readies := d.readies ++ [d.generation] } place running where
  serving := h.serving
  past _ _ := hp
  known generation hg := by
    rcases List.mem_append.1 hg with hg | hg
    · exact h.known generation hg
    · exact Nat.le_of_eq (List.mem_singleton.1 hg)
  live := h.live

theorem giveBack (h : d.Placed place running) (hs : (place d.generation).isServing = false) :
    Placed { d with calls := d.calls.erase d.generation } place running where
  serving := by
    have hserving := h.serving
    rw [hs] at hserving ⊢
    simpa using hserving
  past hready hc := h.past hready (List.mem_of_mem_erase hc)
  known := h.known
  live := h.live

end Placed

end Desk

namespace Ensemble

variable {W : Type} {m : Ensemble W}

theorem callAt_eq_some_iff {generation : Nat} {point : CallPoint} :
    m.callAt generation = some point ↔
      generation ∈ m.scene.calls ∧ m.place generation = point := by
  rw [callAt]
  split
  · next h => simp [h]
  · next h => simp [h]

/-- The start call of the latest session is in its place. -/
def Placed (m : Ensemble W) : Prop := m.scene.desk.Placed m.place m.engine.running

/-- A start call in flight is that of the latest session. -/
theorem eq_generation_of_callAt (ho : m.scene.Orderly) {generation : Nat} {point : CallPoint}
    (h : m.callAt generation = some point) :
    generation = m.scene.desk.generation ∧ generation ∈ m.scene.calls ∧
      m.place generation = point := by
  obtain ⟨hc, hp⟩ := callAt_eq_some_iff.1 h
  exact ⟨ho.eq_of_mem_calls hc, hc, hp⟩

namespace Placed

theorem congr (h : m.Placed) {m' : Ensemble W} (hd : m'.scene.desk = m.scene.desk)
    (hp : m'.place = m.place) (hr : m'.engine.running = m.engine.running) : m'.Placed := by
  rw [Placed, hd, hp, hr]
  exact h

theorem control (h : m.Placed) (ho : m.scene.Orderly) {a : Action} (ha : a.isOfCall = false) :
    (m.control a).Placed := by
  unfold Ensemble.control
  split
  · have hs := m.scene.act_desk ho.requests ho.holdings ha
    refine Desk.Placed.step h hs fun hp => ?_
    rcases ho.calls_cases with hcalls | ⟨hne, -⟩
    · exact hcalls
    · exact absurd hp hne
  · exact h

/-- The engine does not serve while the latest start call has not reached it. -/
theorem not_running (h : m.Placed) (ho : m.scene.Orderly) {generation : Nat} {point : CallPoint}
    (hc : m.callAt generation = some point) (hs : point.isServing = false) :
    m.engine.running = false := by
  obtain ⟨hgen, -, hp⟩ := eq_generation_of_callAt ho hc
  rw [← Bool.not_eq_true, h.serving, ← hgen, hp, hs]
  simp

theorem enter (h : m.Placed) (ho : m.scene.Orderly) (generation now : Nat) :
    (m.act (.enter generation now)).Placed := by
  rw [act]
  split
  · next params hc =>
    obtain ⟨rfl, hmem, hp⟩ := eq_generation_of_callAt ho hc
    have hrun := h.not_running ho hc rfl
    have hpast : (m.place m.scene.desk.generation).isPast = false := by rw [hp]; rfl
    rcases MemoryEngine.start_cases hrun now params with ⟨engine, he, hface⟩ |
      ⟨engine, he, hserves, -⟩
    · rw [he]
      refine Desk.Placed.move h hmem ?_ (by simp [hpast])
      exact (congrArg Prod.fst hface).trans hrun
    · rw [he]
      exact Desk.Placed.move h hmem hserves (by simp [hpast])
  · exact h

theorem announce (h : m.Placed) (ho : m.scene.Orderly) (generation : Nat) :
    (m.act (.announce generation)).Placed := by
  rw [act]
  split
  · next hc =>
    obtain ⟨rfl, hmem, hp⟩ := eq_generation_of_callAt ho hc
    have hrun : m.engine.running = true := h.serving.2 ⟨hmem, by rw [hp]; rfl⟩
    have hmoved : m.scene.desk.Placed
        (Function.update m.place m.scene.desk.generation .blocked) m.engine.running :=
      Desk.Placed.move h hmem hrun fun _ => rfl
    rw [Placed]
    dsimp only [moveCall]
    rw [Scene.desk_fire]
    split
    · exact hmoved.fire (by rw [Function.update_self]; rfl)
    · exact hmoved
  · exact h

theorem leave (h : m.Placed) (ho : m.scene.Orderly) (generation : Nat) :
    (m.act (.leave generation)).Placed := by
  rw [act]
  split
  · next hc =>
    obtain ⟨rfl, hmem, hp⟩ := eq_generation_of_callAt ho hc
    split
    · next status engine he =>
      obtain ⟨hrun, -⟩ := MemoryEngine.of_finish?_eq_some he
      exact Desk.Placed.move h hmem hrun fun _ => rfl
    · exact h
  · exact h

theorem giveBack (h : m.Placed) (ho : m.scene.Orderly) (generation : Nat) :
    (m.act (.giveBack generation)).Placed := by
  rw [act]
  split
  · next status hc =>
    obtain ⟨rfl, hmem, hp⟩ := eq_generation_of_callAt ho hc
    rw [Placed]
    dsimp only
    rw [Scene.desk_giveBack hmem]
    exact Desk.Placed.giveBack h (by rw [hp]; rfl)
  · exact h

/-- **Every step keeps the start call of the latest session in its place.** -/
theorem act (h : m.Placed) (ho : m.scene.Orderly) (move : Move) : (m.act move).Placed := by
  cases move with
  | start profile mode threadError => exact h.control ho rfl
  | stop => exact h.control ho rfl
  | switchMode mode => exact h.control ho rfl
  | setMitm on => exact h.control ho rfl
  | call errand => exact h.control ho rfl
  | proceed => exact h.control ho rfl
  | timeOut => exact h.control ho rfl
  | carryOut =>
    rw [Ensemble.act]
    split
    · exact h
    · next r rest _ => exact h.congr rfl rfl (m.engine.running_carry r)
  | enter generation now => exact h.enter ho generation now
  | announce generation => exact h.announce ho generation
  | leave generation => exact h.leave ho generation
  | giveBack generation => exact h.giveBack ho generation
  | endDelay generation =>
    rw [Ensemble.act]
    split
    · dsimp only
      split
      · exact h.congr rfl rfl (m.engine.running_carry (.setMitm true))
      · exact h
    · exact h
  | advance index slices =>
    rw [Ensemble.act]
    split
    · next stream _ =>
      have hface := m.engine.face_served stream.point
      exact h.congr (m.scene.desk_advance index _) rfl (congrArg Prod.fst hface)
    · exact h
  | quit ending =>
    have hface := m.engine.face_requestEnd ending
    exact h.congr rfl rfl (congrArg Prod.fst hface)
  | push entry =>
    have hface := m.engine.face_push entry
    exact h.congr rfl rfl (congrArg Prod.fst hface)
  | setFailCreation fails => exact h.congr rfl rfl rfl

end Placed

/-- A move is an action of the scene, or leaves the scene as it is. -/
theorem scene_act (m : Ensemble W) (move : Move) :
    (m.act move).scene = m.scene ∨ ∃ a, (m.act move).scene = m.scene.act a := by
  have hcontrol (a : Action) :
      (m.control a).scene = m.scene ∨ ∃ b, (m.control a).scene = m.scene.act b := by
    unfold control
    split
    · exact .inr ⟨a, rfl⟩
    · exact .inl rfl
  cases move with
  | start profile mode threadError => exact hcontrol (.start profile mode threadError)
  | stop => exact hcontrol .stop
  | switchMode mode => exact hcontrol (.switchMode mode)
  | setMitm on => exact hcontrol (.setMitm on)
  | call errand => exact hcontrol (.call errand)
  | proceed => exact hcontrol (.proceed m.engine.nickname)
  | timeOut => exact hcontrol .timeOut
  | carryOut =>
    rw [act]
    split <;> exact .inl rfl
  | enter generation now =>
    rw [act]
    split <;> exact .inl rfl
  | announce generation =>
    rw [act]
    split
    · exact .inr ⟨.fire generation, rfl⟩
    · exact .inl rfl
  | leave generation =>
    rw [act]
    split
    · split <;> exact .inl rfl
    · exact .inl rfl
  | giveBack generation =>
    rw [act]
    split
    · next status _ => exact .inr ⟨.giveBack generation status, rfl⟩
    · exact .inl rfl
  | endDelay generation =>
    rw [act]
    split
    · dsimp only
      split <;> exact .inl rfl
    · exact .inl rfl
  | advance index slices =>
    rw [act]
    split
    · next stream _ =>
      exact .inr ⟨.advance index (m.engine.answers slices stream.point), rfl⟩
    · exact .inl rfl
  | quit ending => exact .inl rfl
  | push entry => exact .inl rfl
  | setFailCreation fails => exact .inl rfl

theorem orderly_act (ho : m.scene.Orderly) (move : Move) : (m.act move).scene.Orderly := by
  rcases m.scene_act move with hs | ⟨a, hs⟩
  · rw [hs]
    exact ho
  · rw [hs]
    exact ho.act a

end Ensemble

end ProxyControl
