import ProxyControl.Proofs.Session.Refusals

/-!
# A controller that goes away

A controller that goes away takes the permission of a delayed switch of inspection, asks its log
stream to stop, and asks the engine to stop where its session is running or stopping. It goes by what
it knows: a session is starting until its readiness is taken, so one whose engine serves already is
left alone as long as the readiness lies in the queue. What the phase tells of the session makes the
two requests one: either both are made or none.

## Main definitions

* `Scene.farewell`, `Ensemble.farewell`: all parties after the controller has gone away
* `RunningStream.IsLeaving`: a log stream that has ended or sees that it is to stop

## Main results

* `Session.Holdings.requests_farewell`: what is asked for, by the phase
* `Scene.farewell_run`: what is left behind after every run
* `Ensemble.engine_endDelay_farewell`: no delayed switch reaches the engine in memory any more
* `Ensemble.finish?_farewell`: the start call of a session that was ready can return
-/

set_option autoImplicit false

namespace ProxyControl

namespace Session

theorem farewell_eq (s : Session) :
    s.farewell = { s with
      live := none
      requests := s.requests ++ (if s.holdsStream then [.stopStream] else []) ++
        if s.phase = .running ∨ s.phase = .stopping then [.stopEngine] else [] } := by
  by_cases hp : s.phase = .running ∨ s.phase = .stopping <;> cases hs : s.holdsStream <;>
    simp [farewell, request, hp, hs]

/-- **What is asked for when the controller goes away**, by the phase: a log stream is held while the
session is running or stopping, and then both the stream and the engine are asked to stop. -/
theorem Holdings.requests_farewell {s : Session} (h : s.Holdings .receiving)
    (hr : s.requests = []) :
    s.farewell.requests =
      if s.phase = .running ∨ s.phase = .stopping then [.stopStream, .stopEngine] else [] := by
  have hstream : s.holdsStream = true ↔ s.phase = .running ∨ s.phase = .stopping := by
    simpa using h.stream
  rw [farewell_eq, hr]
  by_cases hp : s.phase = .running ∨ s.phase = .stopping
  · simp [hp, hstream.2 hp]
  · have hnone : s.holdsStream = false := Bool.eq_false_iff.2 fun hs => hp (hstream.1 hs)
    simp [hp, hnone]

end Session

/-- Whether a log stream has ended or will see that it is to stop. -/
def RunningStream.IsLeaving (r : RunningStream) : Prop :=
  r.point.isEnded = true ∨ r.stopRequested = true

theorem isLeaving_askStop {streams : List RunningStream}
    (h : ∀ r ∈ streams.tail, r.point.isEnded = true) :
    ∀ r ∈ Scene.askStop streams, r.IsLeaving := by
  cases streams with
  | nil => nofun
  | cons latest earlier =>
    intro r hr
    rcases List.mem_cons.1 hr with rfl | hr
    · exact .inr rfl
    · exact .inl (h r hr)

/-- A log stream that runs is the latest one, and none runs before readiness is taken. -/
theorem Tableau.Standing.isLeaving {t : Tableau} {pending : List LogRecord}
    (h : t.Standing pending) :
    (t.phase = .running ∨ t.phase = .stopping → ∀ r ∈ Scene.askStop t.streams, r.IsLeaving) ∧
      (¬(t.phase = .running ∨ t.phase = .stopping) → ∀ r ∈ t.streams, r.IsLeaving) := by
  have hstreaming (hs : t.Streaming) : ∀ r ∈ t.streams.tail, r.point.isEnded = true := by
    obtain ⟨streams, -, -, ended⟩ := hs
    rwa [streams]
  cases h with
  | stopped phase _ _ _ _ ended =>
    exact ⟨fun hp => by simp [phase] at hp, fun _ r hr => .inl (ended r hr)⟩
  | starting phase _ _ _ ended =>
    exact ⟨fun hp => by simp [phase] at hp, fun _ r hr => .inl (ended r hr)⟩
  | serving phase _ _ _ streaming =>
    exact ⟨fun _ => isLeaving_askStop (hstreaming streaming), fun hp => absurd phase hp⟩
  | ending _ phase _ _ _ _ streaming =>
    exact ⟨fun _ => isLeaving_askStop (hstreaming streaming), fun hp => absurd phase hp⟩

namespace Scene

variable {W : Type} {c : Scene W}

/-- The scene after the controller has gone away. -/
def farewell (c : Scene W) : Scene W := (c.withSession c.session.farewell).settle

theorem Orderly.run (h : c.Orderly) (actions : List Action) : (c.run actions).Orderly := by
  induction actions generalizing c with
  | nil => exact h
  | cons a actions ih => exact ih (h.act a)

/-- A session that has a start call in flight is starting, running or stopping. -/
theorem Orderly.of_mem_calls (h : c.Orderly) {generation : Nat} (hc : generation ∈ c.calls) :
    generation = c.session.generation ∧ c.session.phase ≠ .stopped := by
  refine ⟨h.eq_of_mem_calls hc, ?_⟩
  rcases h.calls_cases with hcalls | ⟨hp, -⟩
  · rw [hcalls] at hc
    cases hc
  · exact hp

/-- What the controller asks for when it goes away, and what it leaves behind. -/
theorem Orderly.farewell (h : c.Orderly) (hf : c.point = .free) :
    c.session.farewell.requests =
        (if c.session.phase = .running ∨ c.session.phase = .stopping
          then [.stopStream, .stopEngine] else []) ∧
      c.farewell.session.live = none ∧ ∀ r ∈ c.farewell.streams, r.IsLeaving := by
  have hholdings : c.session.Holdings .receiving := by
    have hh := h.holdings
    rwa [Holdings, hf] at hh
  have hrequests := hholdings.requests_farewell h.requests
  obtain ⟨_, _, _, _, hc⟩ := h.standing
  obtain ⟨hasked, hrest⟩ := hc.standing.isLeaving
  refine ⟨hrequests, ?_, ?_⟩
  · rw [Scene.farewell, session_settle, withSession, session, Session.farewell_eq]
  · have hstreams : c.farewell.streams = if c.session.phase = .running ∨ c.session.phase = .stopping
        then askStop c.streams else c.streams := by
      have hsettle : c.farewell = c.session.farewell.requests.foldl perform
          (c.withSession { c.session.farewell with requests := [] }) := rfl
      rw [hsettle, hrequests]
      split <;> rfl
    rw [hstreams]
    split
    · next hp => exact hasked hp
    · next hp => exact hrest hp

/-- **A controller that goes away stops what it knows to be running.** After every run, and whatever
messages lie in its queue, no delayed switch of inspection is permitted any more, and every log stream
has ended or sees that it is to stop. A start call that has not returned is that of the latest
session. The engine is asked to stop exactly if the readiness of this session was taken; while it was
not, the session is starting and nothing is asked for. -/
theorem farewell_run (store : ProfileStore W) (options : SessionOptions) (w : W)
    (actions : List Action) :
    let c := (idle store options w).run actions
    c.point = .free →
      c.farewell.session.live = none ∧ (∀ r ∈ c.farewell.streams, r.IsLeaving) ∧
      ∀ generation ∈ c.calls, generation = c.session.generation ∧
        (c.session.readySeen = true ∧
            c.session.farewell.requests = [.stopStream, .stopEngine] ∨
          c.session.readySeen = false ∧ c.session.phase = .starting ∧
            c.session.farewell.requests = []) := by
  intro c hf
  have ho : c.Orderly := (Orderly.idle store options w).run actions
  obtain ⟨hrequests, hlive, hstreams⟩ := ho.farewell hf
  refine ⟨hlive, hstreams, fun generation hc => ?_⟩
  obtain ⟨hgeneration, hp⟩ := ho.of_mem_calls hc
  refine ⟨hgeneration, ?_⟩
  rw [hrequests]
  cases hphase : c.session.phase with
  | stopped => exact absurd hphase hp
  | starting => exact .inr ⟨ho.holdings.unready hphase, rfl, by simp⟩
  | running => exact .inl ⟨ho.holdings.ready (.inl hphase), by simp⟩
  | stopping => exact .inl ⟨ho.holdings.ready (.inr hphase), by simp⟩

/-- A session with inspection asked for, whose readiness was taken. -/
def readyActions : List Action :=
  [.setMitm true, .start usableProfile none none, .fire 1, .call .polling, .proceed "e",
    .proceed "e"]

/-- The delayed switch is permitted and the log stream runs until the controller goes away. -/
theorem farewell_run_ready :
    let c := (idle unwritableStore ⟨.log, 0, "", 1⟩ ()).run readyActions
    c.calls = [1] ∧ c.session.live = some 1 ∧ c.streams = [⟨1, .initial, false⟩] ∧
      c.farewell.session.live = none ∧ (∀ r ∈ c.farewell.streams, r.IsLeaving) ∧
      c.session.farewell.requests = [.stopStream, .stopEngine] := by
  intro c
  obtain ⟨hlive, hstreams, hcalls⟩ :=
    farewell_run unwritableStore ⟨.log, 0, "", 1⟩ () readyActions rfl
  obtain ⟨-, ⟨-, hrequests⟩ | ⟨hunready, -, -⟩⟩ := hcalls 1 (by decide)
  · exact ⟨rfl, rfl, rfl, hlive, hstreams, hrequests⟩
  · cases hunready

end Scene

/-! ## The engine in memory -/

theorem MemoryEngine.isSome_finish?_requestEnd {e : MemoryEngine} (h : e.running = true)
    (ending : Ending) : ((e.requestEnd ending).finish?).isSome = true := by
  unfold requestEnd
  cases he : e.ending <;> simp [finish?, h, he]

namespace Ensemble

variable {W : Type}

/-- An ensemble whose controller has gone away, with the calls of the engine that it makes then. -/
def farewell (m : Ensemble W) : Ensemble W :=
  { m with
    scene := m.scene.farewell
    orders := m.orders ++ m.scene.session.farewell.requests.filter isOrder }

/-- No delayed switch reaches the engine any more. -/
theorem engine_endDelay_farewell (m : Ensemble W) (generation : Nat) :
    (m.farewell.act (.endDelay generation)).engine = m.engine := by
  have hlive : m.farewell.scene.session.live = none := by
    rw [farewell, Scene.farewell, Scene.session_settle]
    exact congrArg Session.live m.scene.session.farewell_eq
  have hne : m.farewell.scene.session.live ≠ some generation := by simp [hlive]
  rw [act]
  split
  · dsimp only
    rw [if_neg hne]
    rfl
  · rfl

/-- **The start call of a session that was ready can return**, once the controller that goes away has
called the engine. -/
theorem finish?_farewell {m : Ensemble W} (ho : m.scene.Orderly) (hf : m.scene.point = .free)
    (hm : m.orders = [])
    (hp : m.scene.session.phase = .running ∨ m.scene.session.phase = .stopping)
    (he : m.engine.running = true) :
    ((m.farewell.act .carryOut).engine.finish?).isSome = true := by
  obtain ⟨hrequests, -⟩ := ho.farewell hf
  have horders : m.farewell.orders = [.stopEngine] := by
    rw [farewell, hm, hrequests, if_pos hp]
    rfl
  rw [act, horders]
  exact MemoryEngine.isSome_finish?_requestEnd he .stopped

/-- The engine serves a session whose readiness lies in the queue, and is not asked to stop when the
controller goes away. -/
theorem farewell_unheard :
    let m := (idle Scene.unwritableStore ⟨.log, 0, "", 1⟩ ()).run
      [.start Scene.usableProfile none none, .enter 1 0, .announce 1]
    m.scene.point = .free ∧ m.orders = [] ∧ m.scene.calls = [1] ∧
      m.scene.session.queue = [.ready 1] ∧ m.engine.running = true ∧
      .stopEngine ∉ m.scene.session.farewell.requests :=
  ⟨rfl, rfl, rfl, rfl, rfl, by decide⟩

end Ensemble

end ProxyControl
