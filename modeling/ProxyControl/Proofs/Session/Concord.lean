import ProxyControl.Proofs.Session.Ensemble

/-!
# Agreement on the mode and on inspection

The mode and inspection can be asked for at any time. While the session is running, a request is
passed on to the engine, and otherwise it is written down, and readiness passes the mode on and
delays inspection. What the controller takes for the engine's lags behind what it is: the engine may
have ended its session, or serve one whose readiness was not taken, and a delayed switch of an
earlier session may be outstanding.

All the same they agree. What carries the proof is that the engine takes a new session, which resets
its mode and its inspection, only before readiness is taken, and that a change of inspection takes
away the permission of the delayed switch.

## Main definitions

* `modesOf`, `togglesOf`: what calls of the engine switch to
* `Lasts`: a value of inspection that stays the engine's
* `Concord`: the agreement, where the controller has still to make some calls
* `Ensemble.Serves`: the engine serves the session of a generation

## Main results

* `Concord.step`: a step of the controller keeps the agreement
* `Ensemble.Sound.concord_act`: so does every step
* `Ensemble.concord_run`: what the controller and the engine agree on after every run
-/

set_option autoImplicit false

namespace ProxyControl

/-- The constants to which calls of the engine switch the mode. -/
def modesOf (orders : List Request) : List UInt32 :=
  orders.filterMap fun
    | .switchMode constant => some constant
    | _ => none

/-- The values to which calls of the engine set inspection. -/
def togglesOf (orders : List Request) : List Bool :=
  orders.filterMap fun
    | .setMitm on => some on
    | _ => none

theorem modesOf_eq_nil {orders : List Request} (h : ∀ constant, .switchMode constant ∉ orders) :
    modesOf orders = [] := by
  rw [modesOf, List.filterMap_eq_nil_iff]
  intro r hr
  cases r with
  | switchMode constant => exact absurd hr (h constant)
  | _ => rfl

theorem togglesOf_eq_nil {orders : List Request} (h : ∀ on, .setMitm on ∉ orders) :
    togglesOf orders = [] := by
  rw [togglesOf, List.filterMap_eq_nil_iff]
  intro r hr
  cases r with
  | setMitm on => exact absurd hr (h on)
  | _ => rfl

/-- A value to which inspection was set for the latest session stays the engine's, where the calls
`orders` are still to be made: neither the beginning of the session nor a delayed switch is still to
come. -/
structure Lasts (d : Desk) (e : MemoryEngine) (orders : List Request) (on : Bool) : Prop where
  begun : d.phase ≠ .starting
  unpermitted : d.live = none
  value : e.running = true → (togglesOf orders).getLast?.getD e.mitm = on

/-- A controller and its engine agree, where the calls `orders` of the engine are still to be made.
The values in `toggles` and so many switches of the mode were applied. -/
structure Concord (d : Desk) (e : MemoryEngine) (orders : List Request)
    (toggles : List (Nat × Bool)) (switches : Nat) : Prop where
  mode : d.phase = .running → e.running = true →
    (modesOf orders).getLast?.or e.mode = some d.mode.constant
  toggled : ∀ generation on, toggles.getLast? = some (generation, on) →
    generation ≤ d.generation ∧ (generation = d.generation → Lasts d e orders on)
  counted : e.modeCalls.length + (modesOf orders).length = d.started + switches

namespace Concord

variable {d d' : Desk} {e e' : MemoryEngine} {orders orders' : List Request}
  {toggles : List (Nat × Bool)} {switches : Nat}

/-- A change that was applied lasts on, in a step that begins no session. -/
theorem lasts (h : Concord d e orders toggles switches)
    (hl : ∀ on, Lasts d e orders on → Lasts d' e' orders' on) (generation : Nat) (on : Bool)
    (ht : toggles.getLast? = some (generation, on)) :
    generation ≤ d.generation ∧ (generation = d.generation → Lasts d' e' orders' on) := by
  obtain ⟨hle, hlatest⟩ := h.toggled generation on ht
  exact ⟨hle, fun heq => hl on (hlatest heq)⟩

/-- No change was applied to the next session. -/
theorem next (h : Concord d e orders toggles switches) {p : Nat → Bool → Prop} (generation : Nat)
    (on : Bool) (ht : toggles.getLast? = some (generation, on)) :
    generation ≤ d.generation + 1 ∧ (generation = d.generation + 1 → p generation on) := by
  obtain ⟨hle, -⟩ := h.toggled generation on ht
  exact ⟨by omega, fun heq => by omega⟩

theorem congr (h : Concord d e orders toggles switches) (he : e'.face = e.face) :
    Concord d e' orders toggles switches := by
  simp only [MemoryEngine.face, Prod.mk.injEq] at he
  obtain ⟨hrun, hmode, hmitm, hcalls⟩ := he
  refine ⟨?_, h.lasts fun on hl => ⟨hl.begun, hl.unpermitted, ?_⟩, ?_⟩
  · rw [hrun, hmode]
    exact h.mode
  · rw [hrun, hmitm]
    exact hl.value
  · rw [hcalls]
    exact h.counted

/-- **A step of the controller keeps the agreement**, if it has no calls to make before. -/
theorem step (h : Concord d e [] toggles switches) {turn : Turn} (hs : d.Step turn d') :
    Concord d' e (turn.asks.filter Ensemble.isOrder) (turn.addToggle d.generation toggles)
      (switches + turn.switched.toNat) := by
  have hcounted : e.modeCalls.length = d.started + switches := h.counted
  cases hs with
  | stay => exact ⟨h.mode, h.toggled, hcounted⟩
  | skip => exact ⟨h.mode, h.lasts fun _ hl => ⟨hl.begun, hl.unpermitted, hl.value⟩, hcounted⟩
  | launch params mode hp => exact ⟨nofun, h.next, hcounted⟩
  | abort mode hp =>
    refine ⟨fun hrun => ?_, h.next, hcounted⟩
    cases hp.symm.trans hrun
  | stop hp => exact ⟨nofun, h.lasts fun _ hl => ⟨nofun, rfl, hl.value⟩, hcounted⟩
  | queueMode mode hp =>
    exact ⟨fun hrun => absurd hrun hp,
      h.lasts fun _ hl => ⟨hl.begun, hl.unpermitted, hl.value⟩, hcounted⟩
  | switchMode mode hp =>
    exact ⟨fun _ _ => rfl, h.lasts fun _ hl => ⟨hl.begun, hl.unpermitted, hl.value⟩,
      congrArg (· + 1) hcounted⟩
  | setMitm on hp =>
    refine ⟨h.mode, fun generation value ht => ?_, hcounted⟩
    have hlast : (toggles ++ [(d.generation, on)]).getLast? = some (generation, value) := ht
    rw [List.getLast?_concat] at hlast
    obtain ⟨rfl, rfl⟩ := Prod.mk.inj (Option.some.inj hlast)
    exact ⟨Nat.le_refl _, fun _ => ⟨by simp [hp], rfl, fun _ => rfl⟩⟩
  | @ready rest delays hp hr =>
    have horders : (Request.switchMode d.mode.constant ::
        if delays then [.delayMitm d.generation] else []).filter Ensemble.isOrder =
          [.switchMode d.mode.constant] := by
      cases delays <;> rfl
    dsimp only
    rw [horders]
    refine ⟨fun _ _ => rfl, h.lasts fun _ hl => absurd hp hl.begun, ?_⟩
    have hlength : (modesOf [.switchMode d.mode.constant]).length = 1 := rfl
    rw [hlength, hcounted]
    exact Nat.add_right_comm _ _ _
  | close => exact ⟨h.mode, h.lasts fun _ hl => ⟨hl.begun, rfl, hl.value⟩, hcounted⟩
  | finish => exact ⟨nofun, h.lasts fun _ hl => ⟨nofun, rfl, hl.value⟩, hcounted⟩

/-- The controller makes a call that it had still to make. -/
theorem carry {r : Request} {rest : List Request} (h : Concord d e (r :: rest) toggles switches) :
    Concord d (e.carry r) rest toggles switches := by
  cases r with
  | switchMode constant =>
    have hcounted : e.modeCalls.length + (constant :: modesOf rest).length = d.started + switches :=
      h.counted
    rw [MemoryEngine.carry, MemoryEngine.switchMode_eq]
    refine ⟨fun hp hrun => ?_, h.lasts fun _ hl => ⟨hl.begun, hl.unpermitted, hl.value⟩, ?_⟩
    · have hmode : (constant :: modesOf rest).getLast?.or e.mode = some d.mode.constant :=
        h.mode hp hrun
      rw [List.getLast?_cons] at hmode
      rw [← hmode]
      dsimp only at hrun ⊢
      rw [if_pos hrun]
      cases (modesOf rest).getLast? <;> rfl
    · rw [List.length_append, List.length_singleton, ← hcounted, List.length_cons]
      omega
  | setMitm value =>
    rw [MemoryEngine.carry, MemoryEngine.setMitm_eq]
    refine ⟨h.mode, h.lasts fun on hl => ⟨hl.begun, hl.unpermitted, fun hrun => ?_⟩, h.counted⟩
    have hon : (value :: togglesOf rest).getLast?.getD e.mitm = on := hl.value hrun
    rw [List.getLast?_cons] at hon
    dsimp only at hrun ⊢
    rw [if_pos hrun]
    exact hon
  | stopEngine =>
    have hrest : Concord d e rest toggles switches := ⟨h.mode,
      h.lasts fun _ hl => ⟨hl.begun, hl.unpermitted, hl.value⟩, h.counted⟩
    exact hrest.congr (MemoryEngine.face_requestEnd .stopped e)
  | _ => exact ⟨h.mode, h.lasts fun _ hl => ⟨hl.begun, hl.unpermitted, hl.value⟩, h.counted⟩

/-- The engine takes a session that is starting. -/
theorem enter (h : Concord d e orders toggles switches) (hp : d.phase = .starting)
    (hcalls : e'.modeCalls = e.modeCalls) : Concord d e' orders toggles switches := by
  refine ⟨fun hrun => ?_, h.lasts fun _ hl => absurd hp hl.begun, ?_⟩
  · cases hp.symm.trans hrun
  · rw [hcalls]
    exact h.counted

/-- The session of the engine has come to its end. -/
theorem leave (h : Concord d e orders toggles switches) (hrun : e'.running = false)
    (hcalls : e'.modeCalls = e.modeCalls) : Concord d e' orders toggles switches := by
  have hne : e'.running ≠ true := by simp [hrun]
  refine ⟨fun _ htrue => absurd htrue hne,
    h.lasts fun _ hl => ⟨hl.begun, hl.unpermitted, fun htrue => absurd htrue hne⟩, ?_⟩
  rw [hcalls]
  exact h.counted

/-- A delayed switch happens only where no change was applied to the latest session. -/
theorem endDelay (h : Concord d e orders toggles switches) {own : Nat} (hlive : d.live = some own) :
    Concord d (e.setMitm true) orders toggles switches := by
  rw [MemoryEngine.setMitm_eq]
  refine ⟨h.mode, h.lasts fun _ hl => ?_, h.counted⟩
  cases hlive.symm.trans hl.unpermitted

/-- What is fired or returned beside the controller plays no part. -/
theorem congr_desk (h : Concord d e orders toggles switches) (readies calls : List Nat) :
    Concord { d with readies := readies, calls := calls } e orders toggles switches :=
  ⟨h.mode, h.lasts fun _ hl => ⟨hl.begun, hl.unpermitted, hl.value⟩, h.counted⟩

end Concord

namespace Ensemble

variable {W : Type} {m : Ensemble W}

/-- What holds after every run. -/
structure Sound (m : Ensemble W) : Prop where
  orderly : m.scene.Orderly
  placed : m.Placed
  concord : Concord m.scene.desk m.engine m.orders m.toggles m.switches
  /-- A delayed switch calls the engine only in its own session. -/
  fired : ∀ p ∈ m.fired, p.1 = p.2

theorem sound_idle (store : ProfileStore W) (options : SessionOptions) (w : W) :
    (idle store options w).Sound where
  orderly := .idle store options w
  placed := by
    constructor <;> simp [idle, Scene.idle, Scene.desk, Scene.deskOf, Scene.session,
      Controller.idle, Session.idle, MemoryEngine.idle]
  concord := ⟨nofun, nofun, rfl⟩
  fired := nofun

namespace Sound

/-- A session whose start call has not reached the engine is starting. -/
theorem phase_of_called (h : m.Sound) {generation : Nat} {params : StartParams}
    (hc : m.callAt generation = some (.called params)) : m.scene.desk.phase = .starting := by
  obtain ⟨rfl, hmem, hp⟩ := eq_generation_of_callAt h.orderly hc
  have hpast := fun hready => h.placed.past hready hmem
  rw [hp] at hpast
  have hne : m.scene.desk.phase ≠ .stopped := by
    rcases h.orderly.calls_cases with hcalls | ⟨hne, -⟩
    · rw [hcalls] at hmem
      cases hmem
    · exact hne
  cases hphase : m.scene.desk.phase with
  | starting => rfl
  | stopped => exact absurd hphase hne
  | running => exact absurd (hpast (.inr (.inl hphase))) (by simp [CallPoint.isPast])
  | stopping => exact absurd (hpast (.inr (.inr hphase))) (by simp [CallPoint.isPast])

theorem concord_control (h : m.Sound) {a : Action} (ha : a.isOfCall = false) :
    let m' := m.control a
    Concord m'.scene.desk m'.engine m'.orders m'.toggles m'.switches := by
  intro m'
  simp only [m', Ensemble.control]
  split
  · next horders =>
    have hc := h.concord
    rw [horders] at hc
    exact hc.step (m.scene.act_desk h.orderly.requests h.orderly.holdings ha)
  · exact h.concord

/-- **Every step keeps the agreement.** -/
theorem concord_act (h : m.Sound) (move : Move) :
    let m' := m.act move
    Concord m'.scene.desk m'.engine m'.orders m'.toggles m'.switches := by
  have hc := h.concord
  cases move with
  | start profile mode threadError => exact h.concord_control rfl
  | stop => exact h.concord_control rfl
  | switchMode mode => exact h.concord_control rfl
  | setMitm on => exact h.concord_control rfl
  | call errand => exact h.concord_control rfl
  | proceed => exact h.concord_control rfl
  | timeOut => exact h.concord_control rfl
  | carryOut =>
    simp only [act]
    split
    · exact hc
    · next r rest horders =>
      rw [horders] at hc
      exact hc.carry
  | enter generation now =>
    simp only [act]
    split
    · next params hcall =>
      have hphase := h.phase_of_called hcall
      have hrun := h.placed.not_running h.orderly hcall rfl
      rcases MemoryEngine.start_cases hrun now params with ⟨engine, he, hface⟩ |
        ⟨engine, he, -, hcalls⟩
      · rw [he]
        exact hc.congr hface
      · rw [he]
        exact hc.enter hphase hcalls
    · exact hc
  | announce generation =>
    simp only [act]
    split
    · simp only [moveCall, Scene.desk_fire]
      split
      · exact hc.congr_desk _ _
      · exact hc
    · exact hc
  | leave generation =>
    simp only [act]
    split
    · split
      · next status engine he =>
        obtain ⟨hrun, hcalls⟩ := MemoryEngine.of_finish?_eq_some he
        exact hc.leave hrun hcalls
      · exact hc
    · exact hc
  | giveBack generation =>
    simp only [act]
    split
    · next status hcall =>
      obtain ⟨-, hmem, -⟩ := eq_generation_of_callAt h.orderly hcall
      simp only [Scene.desk_giveBack hmem]
      exact hc.congr_desk _ _
    · exact hc
  | endDelay generation =>
    simp only [act]
    split
    · split
      · next hlive => exact hc.endDelay hlive
      · exact hc
    · exact hc
  | advance index slices =>
    simp only [act]
    split
    · next stream _ =>
      simp only [Scene.desk_advance]
      exact hc.congr (m.engine.face_served stream.point)
    · exact hc
  | quit ending => exact hc.congr (m.engine.face_requestEnd ending)
  | push entry => exact hc.congr (m.engine.face_push entry)
  | setFailCreation fails => exact hc.congr rfl

end Sound

/-- A delayed switch calls the engine only with the permission of its session. -/
theorem fired_act (m : Ensemble W) (move : Move) :
    (m.act move).fired = m.fired ∨ ∃ own, m.scene.desk.live = some own ∧
      (m.act move).fired = m.fired ++ [(own, m.scene.desk.generation)] := by
  have hcontrol (a : Action) : (m.control a).fired = m.fired := by
    unfold control
    split <;> rfl
  cases move with
  | start profile mode threadError => exact .inl (hcontrol (.start profile mode threadError))
  | stop => exact .inl (hcontrol .stop)
  | switchMode mode => exact .inl (hcontrol (.switchMode mode))
  | setMitm on => exact .inl (hcontrol (.setMitm on))
  | call errand => exact .inl (hcontrol (.call errand))
  | proceed => exact .inl (hcontrol (.proceed m.engine.nickname))
  | timeOut => exact .inl (hcontrol .timeOut)
  | leave generation =>
    rw [act]
    split
    · split <;> exact .inl rfl
    · exact .inl rfl
  | endDelay generation =>
    rw [act]
    split
    · dsimp only
      split
      · next hlive => exact .inr ⟨generation, hlive, rfl⟩
      · exact .inl rfl
    · exact .inl rfl
  | quit ending => exact .inl rfl
  | push entry => exact .inl rfl
  | setFailCreation fails => exact .inl rfl
  | _ =>
    rw [act]
    split <;> exact .inl rfl

namespace Sound

theorem act (h : m.Sound) (move : Move) : (m.act move).Sound where
  orderly := orderly_act h.orderly move
  placed := h.placed.act h.orderly move
  concord := h.concord_act move
  fired p hp := by
    rcases m.fired_act move with hfired | ⟨own, hlive, hfired⟩
    · rw [hfired] at hp
      exact h.fired p hp
    · rw [hfired, List.mem_append, List.mem_singleton] at hp
      rcases hp with hp | rfl
      · exact h.fired p hp
      · obtain ⟨hown, -⟩ := h.placed.live own hlive
        exact hown

theorem run (h : m.Sound) (moves : List Move) : (m.run moves).Sound := by
  induction moves generalizing m with
  | nil => exact h
  | cons move moves ih => exact ih (h.act move)

end Sound

/-- The engine serves the session of a generation. -/
def Serves (m : Ensemble W) (generation : Nat) : Prop :=
  ∃ point, m.callAt generation = some point ∧ point.isServing = true

/-- **The controller and the engine agree.** After every run, if the engine serves a session, it
serves the latest one. While the session is running, an engine that serves has the mode that was
asked for last, unless the controller is just switching it. Once a change of inspection was applied
to a session, the engine has the value of the last such change as long as it serves that session,
unless the controller is just changing it. A delayed switch calls the engine in its own session
only. The engine has received one switch of the mode for each readiness that was handled and for
each switch that was applied, but for those that the controller is about to make. -/
theorem concord_run (store : ProfileStore W) (options : SessionOptions) (w : W)
    (moves : List Move) :
    let m := (idle store options w).run moves
    let s := m.scene.session
    (m.engine.running = true ↔ m.Serves s.generation) ∧
      (s.phase = .running → m.engine.running = true →
        (∀ constant, .switchMode constant ∉ m.orders) → m.engine.mode? = some s.pendingMode) ∧
      (∀ generation on, m.toggles.getLast? = some (generation, on) → m.Serves generation →
        (∀ value, .setMitm value ∉ m.orders) → m.engine.mitm = on) ∧
      (∀ p ∈ m.fired, p.1 = p.2) ∧
      m.engine.modeCalls.length + (modesOf m.orders).length =
        m.scene.events.countP SessionEvent.isStarted + m.switches := by
  intro m s
  have h : m.Sound := (sound_idle store options w).run moves
  have hserves : m.engine.running = true ↔ m.Serves s.generation := by
    refine h.placed.serving.trans ⟨?_, ?_⟩
    · rintro ⟨hmem, hserving⟩
      exact ⟨_, callAt_eq_some_iff.2 ⟨hmem, rfl⟩, hserving⟩
    · rintro ⟨point, hcall, hserving⟩
      obtain ⟨hmem, rfl⟩ := callAt_eq_some_iff.1 hcall
      exact ⟨hmem, hserving⟩
  refine ⟨hserves, fun hp hrun horders => ?_, fun generation on hlast hserve horders => ?_,
    h.fired, h.concord.counted⟩
  · have hmode := h.concord.mode hp hrun
    rw [modesOf_eq_nil horders] at hmode
    have hset : m.engine.mode = some s.pendingMode.constant := hmode
    rw [MemoryEngine.mode?, hset]
    exact Mode.ofConstant?_eq_some_iff.2 rfl
  · obtain ⟨point, hcall, -⟩ := id hserve
    obtain ⟨hgen, -, -⟩ := eq_generation_of_callAt h.orderly hcall
    obtain ⟨-, hlatest⟩ := h.concord.toggled generation on hlast
    have hlasts := hlatest hgen
    subst hgen
    have hon := hlasts.value (hserves.2 hserve)
    rw [togglesOf_eq_nil horders] at hon
    exact hon

/-- A mode asked for with the start, which the engine takes when its readiness is handled. -/
example :
    let store : ProfileStore Unit := .ofBackend ⟨"", fun w => (.ok [], w), fun _ w => (.ok (), w)⟩
    let profile : Profile := { Profile.new "h:1" with key := "k" }
    let m := (idle store ⟨.log, 0, "", 1⟩ ()).run [.start profile (some .global) none, .enter 1 0,
      .announce 1, .call .polling, .proceed, .carryOut]
    m.scene.session.phase = .running ∧ m.engine.mode? = some .global ∧ m.orders = [] :=
  ⟨rfl, rfl, rfl⟩

end Ensemble

end ProxyControl
