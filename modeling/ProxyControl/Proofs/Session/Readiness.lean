import ProxyControl.Proofs.Session.Refusals

/-!
# Readiness that comes in time

A start call fires readiness and returns, and the controller learns of both from one queue. So
readiness counts exactly if it was fired before the call returned: then it stands in the queue before
the return, and the session that is starting takes it first. Readiness that is fired once more, or
after the call has returned, is taken when it does not matter.

## Main definitions

* `IsTimely`: the readiness of a generation is in a queue before the return of its start call
* `Scene.readied`: the generations whose readiness was fired in a run before their calls returned
* `Session.Heralds`, `Scene.Heralds`: what a session knows of the readiness that was fired in time

## Main results

* `Scene.Heralds.act`: every action keeps what the session knows
* `Scene.unready_of_stopped`: a session that ends while it is starting was not ready in time
-/

set_option autoImplicit false

namespace ProxyControl

/-! ## Queues -/

/-- The readiness of a generation is in a queue before the return of its start call. -/
def IsTimely (generation : Nat) : List Message → Prop
  | [] => False
  | .ready g :: rest => g = generation ∨ IsTimely generation rest
  | .exited g _ :: rest => g ≠ generation ∧ IsTimely generation rest
  | .log _ _ :: rest => IsTimely generation rest

variable {generation : Nat} {messages : List Message}

theorem IsTimely.mem (h : IsTimely generation messages) : .ready generation ∈ messages := by
  induction messages with
  | nil => exact h.elim
  | cons m rest ih =>
    cases m with
    | ready g =>
      rcases h with rfl | h
      · exact List.mem_cons_self
      · exact List.mem_cons_of_mem _ (ih h)
    | exited g status => exact List.mem_cons_of_mem _ (ih h.2)
    | log g record => exact List.mem_cons_of_mem _ (ih h)

/-- What joins a queue comes in time if the call has not returned there. -/
theorem isTimely_append (messages more : List Message) : IsTimely generation (messages ++ more) ↔
    IsTimely generation messages ∨
      (∀ status, .exited generation status ∉ messages) ∧ IsTimely generation more := by
  induction messages with
  | nil => simp [IsTimely]
  | cons m rest ih =>
    cases m with
    | ready g => simp [IsTimely, ih, or_assoc]
    | exited g status =>
      by_cases hg : g = generation
      · subst hg
        refine iff_of_false (fun h => h.1 rfl) ?_
        rintro (h | ⟨h, -⟩)
        · exact h.1 rfl
        · exact h status List.mem_cons_self
      · simp [IsTimely, ih, hg, Ne.symm hg]
    | log g record => simp [IsTimely, ih]

theorem not_isTimely_map_log (generation g : Nat) (records : List LogRecord) :
    ¬IsTimely generation (records.map (.log g)) := by
  induction records with
  | nil => exact id
  | cons record records ih => exact ih

/-! ## Sessions -/

namespace Session

/-- What a session knows of the readiness that was fired in time: it is in the queue before the
return of the start call, or the session has taken it. No readiness is that of a session to come. -/
structure Heralds (readied : List Nat) (s : Session) : Prop where
  starting : s.phase = .starting → (s.generation ∈ readied ↔ IsTimely s.generation s.queue)
  serving : s.phase = .running ∨ s.phase = .stopping → s.generation ∈ readied
  known : ∀ g, g ∈ readied ∨ .ready g ∈ s.queue → g ≤ s.generation

namespace Heralds

variable {readied : List Nat} {stage : Stage} {s s' : Session}

theorem congr (h : s.Heralds readied)
    (hs : (s'.phase, s'.generation, s'.queue) = (s.phase, s.generation, s.queue)) :
    s'.Heralds readied := by
  simp only [Prod.mk.injEq] at hs
  obtain ⟨hphase, hgeneration, hqueue⟩ := hs
  constructor
  · rw [hphase, hgeneration, hqueue]
    exact h.starting
  · rw [hphase, hgeneration]
    exact h.serving
  · rw [hgeneration, hqueue]
    exact h.known

/-- A session that is stopped knows nothing of the readiness of its start call. -/
theorem of_stopped (h : s.Heralds readied) (hp : s'.phase = .stopped)
    (hg : s.generation ≤ s'.generation) (hq : ∀ m ∈ s'.queue, m ∈ s.queue) :
    s'.Heralds readied where
  starting hs := by cases hp.symm.trans hs
  serving hs := by simp [hp] at hs
  known g hr := Nat.le_trans (h.known g (hr.imp_right (hq _))) hg

/-- The next session was not ready before it is started. -/
theorem launch_none (h : s.Heralds readied) (p : Profile) :
    (s.launch p none).2.Heralds readied := by
  have hfresh : s.generation + 1 ∉ readied := fun hr =>
    Nat.not_succ_le_self _ (h.known _ (.inl hr))
  have hqueue : ¬IsTimely (s.generation + 1) s.queue := fun ht =>
    Nat.not_succ_le_self _ (h.known _ (.inr ht.mem))
  rw [launch_none_eq]
  exact ⟨fun _ => iff_of_false hfresh hqueue, by simp,
    fun g hr => Nat.le_succ_of_le (h.known g hr)⟩

theorem launch_some (h : s.Heralds readied) (p : Profile) (e : IoError) :
    (s.launch p (some e)).2.Heralds readied := by
  rw [launch_some_eq]
  exact h.of_stopped rfl (Nat.le_succ _) fun m hm => hm

theorem stop (h : s.Heralds readied) : s.stop.2.Heralds readied := by
  by_cases hp : s.phase = .running
  · rw [stop_eq hp]
    exact ⟨by simp, fun _ => h.serving (.inl hp), h.known⟩
  · rw [stop_of_ne hp]
    exact h

/-- A message that decides nothing is taken. -/
theorem skip (h : s.Heralds readied) {m : Message} {rest : List Message} (hq : s.queue = m :: rest)
    (hm : s.phase = .starting → (IsTimely s.generation (m :: rest) ↔ IsTimely s.generation rest)) :
    Heralds readied { s with queue := rest } where
  starting hp := by rw [h.starting hp, hq, hm hp]
  serving := h.serving
  known g hr := h.known g (hr.imp_right fun hmem => hq ▸ List.mem_cons_of_mem m hmem)

/-- Readiness is taken only before the return of the start call, where it was fired in time. -/
theorem onReady (h : s.Heralds readied) {g : Nat} {rest : List Message}
    (hq : s.queue = .ready g :: rest) (name : String) :
    (onReady name g { s with queue := rest }).Heralds readied := by
  by_cases hs : g = s.generation ∧ s.phase = .starting
  · obtain ⟨rfl, hp⟩ := hs
    rw [onReady_eq (s := { s with queue := rest }) name rfl hp]
    refine ⟨by simp, fun _ => (h.starting hp).2 ?_, fun g hr => h.known g ?_⟩
    · rw [hq]
      exact .inl rfl
    · exact hr.imp_right fun hmem => hq ▸ List.mem_cons_of_mem _ hmem
  · rw [onReady_of_not (s := { s with queue := rest }) name hs]
    refine h.skip hq fun hp => ?_
    exact or_iff_right fun hg => hs ⟨hg, hp⟩

theorem handleOne (h : s.Heralds readied) {m : Message} {rest : List Message}
    (hq : s.queue = m :: rest) (name : String) :
    (handleOne name { s with queue := rest } m).Heralds readied := by
  cases m with
  | ready g => exact h.onReady hq name
  | log g record =>
    have hrest : Heralds readied { s with queue := rest } := h.skip hq fun _ => .rfl
    rw [Session.handleOne, Session.onLog]
    split
    · rw [append_eq]
      exact hrest.congr rfl
    · exact hrest
  | exited g status =>
    rw [Session.handleOne]
    split
    · rw [finish_eq]
      exact h.of_stopped rfl (Nat.le_refl _) fun m hm => hq ▸ List.mem_cons_of_mem _ hm
    · next hg => exact h.skip hq fun _ => and_iff_right hg

/-- **A message that is taken keeps what the session knows.** A log stream is given up only after
readiness. -/
theorem takeNext (h : s.Heralds readied) (hh : s.Holdings stage) (name : String) :
    (s.takeNext name stage).2.Heralds readied := by
  rcases s.takeNext_cases name stage with ⟨-, -, hp⟩ | ⟨status, -, -, hp⟩ |
    ⟨status, rest, -, hq, hstream, hp⟩ | ⟨m, rest, hq, -, hp⟩ <;> rw [hp]
  · exact h
  · rw [conclude_eq]
    exact h.of_stopped rfl (Nat.le_refl _) fun m hm => hm
  · have hserving := (hh.stream.1 hstream).1
    rw [closeStream_eq]
    refine (h.skip hq fun hs => ?_).congr rfl
    simp [hs] at hserving
  · exact h.handleOne hq name

/-- Messages join the queue. -/
theorem post (h : s.Heralds readied) {more : List Message} {fired : List Nat}
    (hf : ∀ g, g ∈ fired ∨ .ready g ∈ more → g ≤ s.generation)
    (hs : s.phase = .starting → (s.generation ∈ fired ↔
      (∀ status, .exited s.generation status ∉ s.queue) ∧ IsTimely s.generation more)) :
    Heralds (readied ++ fired) { s with queue := s.queue ++ more } where
  starting hp := by
    rw [List.mem_append, isTimely_append, h.starting hp, hs hp]
  serving hp := List.mem_append_left _ (h.serving hp)
  known g hr := by
    simp only [List.mem_append] at hr
    rcases hr with (hr | hr) | hr | hr
    · exact h.known g (.inl hr)
    · exact hf g (.inl hr)
    · exact h.known g (.inr hr)
    · exact hf g (.inr hr)

end Heralds

/-- A session that is starting ends only with the return of its start call, which was in the queue
before any readiness. -/
theorem Heralds.unready {readied : List Nat} {stage : Stage} {s : Session} (h : s.Heralds readied)
    (hp : s.phase = .starting) (hd : stage ≠ .receiving → s.phase ≠ .starting) {name : String}
    (hs : (s.takeNext name stage).2.phase = .stopped) : s.generation ∉ readied := by
  rw [h.starting hp]
  rcases s.takeNext_cases name stage with ⟨-, -, hn⟩ | ⟨status, rfl, -, -⟩ |
    ⟨status, rest, -, -, -, hn⟩ | ⟨m, rest, hq, -, hn⟩
  · rw [hn] at hs
    cases hp.symm.trans hs
  · exact absurd hp (hd (by simp))
  · rw [hn, closeStream_eq] at hs
    cases hp.symm.trans hs
  · rw [hn] at hs
    rw [hq]
    cases m with
    | ready g =>
      by_cases hg : g = s.generation ∧ s.phase = .starting
      · rw [Session.handleOne, onReady_eq (s := { s with queue := rest }) name hg.1 hg.2] at hs
        cases hs
      · rw [Session.handleOne, onReady_of_not (s := { s with queue := rest }) name hg] at hs
        cases hp.symm.trans hs
    | log g record =>
      rw [Session.handleOne, Session.onLog] at hs
      split at hs
      · rw [append_eq] at hs
        cases hp.symm.trans hs
      · cases hp.symm.trans hs
    | exited g status =>
      rw [Session.handleOne] at hs
      split at hs
      · next hg => exact fun ht => ht.1 hg
      · cases hp.symm.trans hs

end Session

/-- While the engine is starting, its start call is in flight exactly if its return is not in the
queue. -/
theorem Tableau.Standing.mem_calls_iff {t : Tableau} {pending : List LogRecord}
    (h : t.Standing pending) (hp : t.phase = .starting) :
    t.generation ∈ t.calls ↔ ∀ status, .exited t.generation status ∉ t.traffic := by
  have hunderway {calls : List Nat} {traffic : List Message} {pending : List LogRecord}
      (hu : Underway t.generation calls traffic pending) :
      t.generation ∈ calls ↔ ∀ status, .exited t.generation status ∉ traffic := by
    cases hu with
    | calling => simp
    | returned before status after =>
      refine iff_of_false List.not_mem_nil fun hn => hn status ?_
      exact List.mem_append_right _ List.mem_cons_self
  cases h with
  | stopped phase => cases hp.symm.trans phase
  | starting _ _ _ underway => exact hunderway underway
  | serving phase => simp [hp] at phase
  | ending _ phase => simp [hp] at phase

/-- A step of the controller makes a start call only for the session that is the latest then. -/
theorem Desk.Step.launched {d d' : Desk} {turn : Turn} (h : d.Step turn d') :
    d.generation ≤ d'.generation ∧
      d'.calls = d.calls ++ (Scene.startCallsOf turn.asks).map Prod.fst ∧
      ∀ g ∈ (Scene.startCallsOf turn.asks).map Prod.fst, g = d'.generation := by
  cases h with
  | ready delays hp hr => cases delays <;> simp [Scene.startCallsOf]
  | _ => simp [Scene.startCallsOf, Turn.none]

namespace Scene

variable {W : Type} {c : Scene W}

/-! ## Runs -/

/-- What is noted along a list of actions, where something may be noted of each. -/
def noted {α : Type} (f : Scene W → Action → Option α) : Scene W → List Action → List α
  | _, [] => []
  | c, a :: actions => (f c a).toList ++ noted f (c.act a) actions

/-- The generation whose readiness is fired in an action, before its start call has returned. -/
def ready? (c : Scene W) : Action → Option Nat
  | .fire generation => if generation ∈ c.calls then some generation else none
  | _ => none

/-- The generations whose readiness was fired in a list of actions before their start calls
returned. -/
def readied (c : Scene W) (actions : List Action) : List Nat := noted ready? c actions

/-- What holds of the readiness that was fired in time. Start calls in flight were made, and none was
made for a session to come. -/
structure Heralds (c : Scene W) (readied : List Nat) : Prop where
  session : c.session.Heralds readied
  called : ∀ g ∈ c.calls, g ∈ c.made
  made : ∀ g ∈ c.made, g ≤ c.session.generation

theorem Heralds.idle (store : ProfileStore W) (options : SessionOptions) (w : W) :
    (Scene.idle store options w).Heralds [] where
  session := by constructor <;> simp [Scene.idle, Controller.idle, Scene.session, Session.idle]
  called := by simp [Scene.idle]
  made := by simp [Scene.idle]

/-- The calls of the controller are those that it was asked for. -/
theorem Heralds.calls_act {readied : List Nat} (h : c.Heralds readied) (ho : c.Orderly)
    (a : Action) : (∀ g ∈ (c.act a).calls, g ∈ (c.act a).made) ∧
      ∀ g ∈ (c.act a).made, g ≤ (c.act a).session.generation := by
  cases hc : a.isOfCall with
  | false =>
    obtain ⟨-, -, hmade⟩ := launches_act ho.requests a
    obtain ⟨hgrows, hcalls, hlatest⟩ := (act_desk ho.requests ho.holdings hc).launched
    have hcalls' : (c.act a).calls = c.calls ++ _ := hcalls
    rw [hmade, hcalls']
    constructor
    · intro g hg
      exact List.mem_append.2 ((List.mem_append.1 hg).imp_left (h.called g))
    · intro g hg
      rcases List.mem_append.1 hg with hg | hg
      · exact Nat.le_trans (h.made g hg) hgrows
      · exact Nat.le_of_eq (hlatest g hg)
  | true =>
    cases a with
    | fire generation =>
      rw [act]
      split
      · exact ⟨h.called, h.made⟩
      · exact ⟨h.called, h.made⟩
    | giveBack generation status =>
      rw [act]
      split
      · exact ⟨fun g hg => h.called g (List.mem_of_mem_erase hg), h.made⟩
      · exact ⟨h.called, h.made⟩
    | _ => cases hc

theorem Heralds.start {readied : List Nat} (h : c.session.Heralds readied) (profile : Profile)
    (mode : Option Mode) (threadError : Option IoError) :
    (c.controller.start profile mode threadError c.world).2.1.session.Heralds readied := by
  unfold Controller.start
  split
  · exact h
  · split
    · rw [Session.notifyStatus_eq]
      exact h.congr rfl
    · have hmode : Session.Heralds readied { c.controller.session with
          pendingMode := mode.getD c.controller.session.pendingMode } := h.congr rfl
      cases threadError with
      | none => exact hmode.launch_none profile
      | some e => exact hmode.launch_some profile e

theorem Heralds.settle {readied : List Nat} (h : c.session.Heralds readied) :
    c.settle.session.Heralds readied := by
  rw [session_settle]
  exact h.congr rfl

theorem Heralds.proceed {readied : List Nat} (h : c.session.Heralds readied) (hh : c.Holdings)
    (name : String) {errand : Errand} {stage : Stage} (hp : c.point = .busy errand stage) :
    (c.proceed name errand stage).session.Heralds readied := by
  rw [Holdings, hp] at hh
  unfold Scene.proceed
  split
  · cases errand with
    | polling => exact h.congr rfl
    | waiting target =>
      dsimp only
      split <;> exact h
  · split
    · exact h
    · exact Heralds.settle (h.takeNext hh name)

/-- While the session is starting, its start call is in flight exactly if its return is not in the
queue. -/
theorem Orderly.mem_calls_iff (h : c.Orderly) (hp : c.session.phase = .starting) :
    c.session.generation ∈ c.calls ↔
      ∀ status, .exited c.session.generation status ∉ c.session.queue := by
  obtain ⟨_, _, _, _, hc⟩ := h.standing
  refine (hc.standing.mem_calls_iff hp).trans (forall_congr' fun status => not_congr ?_)
  exact List.mem_filter.trans (and_iff_left rfl)

/-- Readiness that is fired is in time exactly if the call has not returned. -/
theorem Heralds.fire {readied : List Nat} (h : c.Heralds readied) (ho : c.Orderly)
    {generation : Nat} (hm : generation ∈ c.made) :
    (c.session.enqueue (.ready generation)).Heralds
      (readied ++ (c.ready? (.fire generation)).toList) := by
  have hle := h.made generation hm
  refine h.session.post (fun g hg => ?_) fun hp => ?_
  · rw [ready?, Option.mem_toList] at hg
    have heq : g = generation := by
      rcases hg with hg | hg
      · split at hg
        · exact (Option.some.inj hg).symm
        · cases hg
      · simpa using hg
    exact heq ▸ hle
  · rw [ready?, ← ho.mem_calls_iff hp]
    by_cases hg : generation = c.session.generation
    · subst hg
      by_cases hc : c.session.generation ∈ c.calls <;> simp [hc, IsTimely]
    · have hne : c.session.generation ≠ generation := Ne.symm hg
      by_cases hc : generation ∈ c.calls <;> simp [hc, IsTimely, hg, hne]

theorem Heralds.session_act {readied : List Nat} (h : c.Heralds readied) (ho : c.Orderly)
    (a : Action) : (c.act a).session.Heralds (readied ++ (c.ready? a).toList) := by
  have hs := h.session
  have hkeep {s : Session} (hs : s.Heralds readied) : s.Heralds (readied ++ []) := by
    rwa [List.append_nil]
  have hpost {more : List Message} (hm : ∀ g, .ready g ∉ more)
      (ht : ¬IsTimely c.session.generation more) :
      Session.Heralds (readied ++ []) { c.session with queue := c.session.queue ++ more } :=
    hs.post (fun g hg => absurd hg (by simp [hm g])) fun _ => by simp [ht]
  cases a with
  | start profile mode threadError =>
    refine hkeep ?_
    rw [act]
    split
    · exact Heralds.settle (Heralds.start hs profile mode threadError)
    · exact hs
  | stop =>
    refine hkeep ?_
    rw [act]
    split
    · exact Heralds.settle hs.stop
    · exact hs
  | switchMode mode =>
    refine hkeep ?_
    rw [act]
    split
    · refine Heralds.settle (hs.congr ?_)
      rw [Session.switchMode_eq]
      rfl
    · exact hs
  | setMitm on =>
    refine hkeep ?_
    rw [act]
    split
    · refine Heralds.settle (hs.congr ?_)
      rw [Session.setMitm_eq]
      rfl
    · exact hs
  | call errand =>
    refine hkeep ?_
    rw [act]
    split <;> exact hs
  | proceed name =>
    refine hkeep ?_
    rw [act]
    split
    · exact hs
    · next hp => exact Heralds.proceed hs ho.holdings name hp
  | timeOut =>
    refine hkeep ?_
    rw [act]
    split <;> exact hs
  | fire generation =>
    rw [act]
    split
    · next hm => exact h.fire ho hm
    · next hm =>
      have hc : generation ∉ c.calls := fun hc => hm (h.called generation hc)
      rw [ready?, if_neg hc]
      exact hkeep hs
  | giveBack generation status =>
    rw [act]
    split
    · exact hpost (by simp) (by simp [IsTimely])
    · exact hkeep hs
  | advance index answers =>
    rw [act]
    split
    · exact hkeep hs
    · simp only [withSession, foldl_enqueue_eq]
      exact hpost (by simp) (not_isTimely_map_log _ _ _)

/-- **Every action keeps what the session knows** of the readiness that was fired in time. -/
theorem Heralds.act {readied : List Nat} (h : c.Heralds readied) (ho : c.Orderly) (a : Action) :
    (c.act a).Heralds (readied ++ (c.ready? a).toList) := by
  obtain ⟨hcalled, hmade⟩ := h.calls_act ho a
  exact ⟨h.session_act ho a, hcalled, hmade⟩

/-- A start leaves a session that is starting as it is, but for what is shown. -/
theorem phase_start (hp : c.session.phase = .starting) (profile : Profile) (mode : Option Mode)
    (threadError : Option IoError) :
    (c.controller.start profile mode threadError c.world).2.1.session.phase = .starting := by
  have hne : c.controller.session.phase ≠ .stopped := fun hs => by cases hp.symm.trans hs
  unfold Controller.start
  split
  · exact hp
  · rw [if_pos hne, Session.notifyStatus_eq]
    exact hp

/-- **A session that ends while it is starting** was not ready in time. -/
theorem Heralds.unready_act {readied : List Nat} (h : c.Heralds readied) (ho : c.Orderly)
    {a : Action} (hp : c.session.phase = .starting) (hs : (c.act a).session.phase = .stopped) :
    c.session.generation ∉ readied := by
  by_cases ht : c.Takes a
  · obtain ⟨⟨name, rfl⟩, hbusy, hidle⟩ := ht
    obtain ⟨_, _, _, _, hc⟩ := ho.standing
    cases hpoint : c.point with
    | free => exact absurd hpoint hbusy
    | busy errand stage =>
      have hstage : c.tableau.stage = stage := congrArg ControlPoint.stage hpoint
      have hd : stage ≠ .receiving → c.session.phase ≠ .starting := fun hne =>
        (hc.standing.draining (hstage ▸ hne)).1
      have hmore : ¬(stage = .receiving ∧ c.session.queue = []) := by
        rw [hpoint] at hidle
        exact hidle
      rw [Scene.act, hpoint] at hs
      dsimp only at hs
      unfold Scene.proceed at hs
      rw [if_neg hmore] at hs
      split at hs
      · cases hp.symm.trans hs
      · have hresume : (c.resume errand (c.session.takeNext name stage).1
            (c.session.takeNext name stage).2).session.phase = .stopped := hs
        rw [resume, session_settle] at hresume
        exact h.session.unready hp hd hresume
  · by_cases hstart : ∃ profile mode threadError, a = .start profile mode threadError
    · obtain ⟨profile, mode, threadError, rfl⟩ := hstart
      rw [Scene.act] at hs
      split at hs
      · rw [session_settle] at hs
        cases (phase_start hp profile mode threadError).symm.trans hs
      · cases hp.symm.trans hs
    · have hne : ∀ profile mode threadError, a ≠ .start profile mode threadError :=
        fun profile mode threadError heq => hstart ⟨profile, mode, threadError, heq⟩
      rw [phase_act (by simp [hp]) ht hne] at hs
      cases hp.symm.trans hs

end Scene

end ProxyControl
