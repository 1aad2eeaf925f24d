import ProxyControl.Engine.Process
import ProxyControl.Proofs.Engine.Tenure
import Mathlib.Logic.Function.Basic

/-!
# Sessions of a process engine, one after another

The state of a process engine is shared by all start calls, the calls beside them and the readers of
the children's output. A start call creates a child, watches it until it has exited, records that,
and returns once the readers had some time to finish; a reader goes on for as long as anybody holds
the pipe open, so it may push lines of a session that has ended long ago. Here all these steps come
in any order. A start call watches the child that the engine holds then, which need not be its own
as far as the code goes, and it is part of the result that it always is. The operating system
reports the exit of each child without an error.

## Main definitions

* `ChildPoint`: how far a start call is
* `Succession`: the engine, its start calls, the children and what the readers pushed
* `Succession.act`, `Succession.run`: what may happen, and what it leads to

## Main results

* `Succession.kept_act`, `Succession.heard_act`: what every step keeps
* `Succession.succession_run`: the sessions of every run
-/

set_option autoImplicit false

namespace ProxyControl

/-- How far a start call is. -/
inductive ChildPoint where
  /-- Its child was created, and it has not fired readiness. -/
  | announcing
  /-- It looks for the exit of the child. -/
  | watching
  /-- It has seen the exit, which was with a code or by a signal. -/
  | noticed (code : Option Nat)
  /-- The exit was recorded, and the readers are waited for. -/
  | draining (code : Option Nat) (stopRequested : Bool)
  | returned (status : Status)
  deriving DecidableEq, Repr

/-- The status of a call, or nothing while it owns a child. -/
def ChildPoint.verdict? : ChildPoint → Option Status
  | .announcing | .watching | .noticed _ => none
  | .draining code stopRequested => some (exitStatus code stopRequested)
  | .returned status => some status

/-- A process engine with its start calls, the children and the readers of their output. -/
structure Succession where
  engine : ProcessEngine
  /-- How each child exited, by the number of its session. -/
  exits : Nat → Option (Option Nat)
  /-- All start calls, in the order in which they were made. -/
  calls : List ChildPoint
  /-- The sessions of the start calls, of each one that created a child. -/
  children : List (Option Nat)
  /-- What the readers pushed, with the sessions that they belong to. -/
  pushed : List (Nat × LogEntry)
  /-- What happened, with the requests to stop. -/
  history : List (Occurrence Unit)

namespace Succession

/-- What may happen. -/
inductive Action where
  /-- A new start call, for which creating a child gives an error or a name. -/
  | start (created : Except IoError String)
  /-- A start call fires readiness. -/
  | fire (call : Nat)
  /-- The child of a session exits with a code, or by a signal. -/
  | exit (session : Nat) (code : Option Nat)
  /-- A start call looks whether the child has exited. -/
  | notice (call : Nat)
  /-- A start call records the exit that it has seen. -/
  | record (call : Nat)
  /-- A start call returns, with or without all of its readers. -/
  | giveBack (call : Nat)
  | stop
  /-- A control line is written, or not. -/
  | control (taken : Bool)
  /-- A reader of a session pushes a record. -/
  | push (session : Nat) (entry : LogEntry)
  /-- Records are dropped through an index. -/
  | deleteSince (index : Nat)
  /-- A call that only reads. -/
  | read

/-- An engine that was never called. -/
def idle : Succession := ⟨.idle, fun _ => none, [], [], [], []⟩

/-- The child that is owned and was not seen to exit, by its session. -/
def owned (c : Succession) : Option Nat :=
  if c.engine.running then some c.engine.launches else none

/-- A start call goes on to another point. -/
def move (c : Succession) (call : Nat) (p : ChildPoint) : Succession :=
  { c with calls := c.calls.set call p }

/-- A start call looks at the child that the engine holds. -/
def look (c : Succession) (call : Nat) : Succession :=
  match c.owned with
  | none => c.move call (.noticed none)
  | some session =>
    match c.exits session with
    | none => c
    | some code => c.move call (.noticed code)

/-- A start call records an exit. -/
def recordExit (c : Succession) (call : Nat) (code : Option Nat) : Succession :=
  let (stopRequested, engine) := c.engine.recordExit
  { c with
    engine := engine
    calls := c.calls.set call (.draining code stopRequested)
    history := c.history ++ [.finished call] }

/-- What an action leads to; one that cannot happen changes nothing. -/
def act (c : Succession) : Action → Succession
  | .start created =>
    match c.engine.launch created with
    | (⟨_, some status⟩, engine) =>
      { c with
        engine := engine
        calls := c.calls ++ [.returned status]
        children := c.children ++ [none] }
    | (⟨_, none⟩, engine) =>
      { c with
        engine := engine
        calls := c.calls ++ [.announcing]
        children := c.children ++ [some engine.launches]
        history := c.history ++ [.accepted c.calls.length] }
  | .fire call =>
    if c.calls[call]? = some .announcing then
      { c.move call .watching with history := c.history ++ [.fired call] }
    else c
  | .exit session code =>
    if 1 ≤ session ∧ session ≤ c.engine.launches ∧ c.exits session = none then
      { c with exits := Function.update c.exits session (some code) }
    else c
  | .notice call => if c.calls[call]? = some .watching then c.look call else c
  | .record call =>
    match c.calls[call]? with
    | some (.noticed code) => c.recordExit call code
    | _ => c
  | .giveBack call =>
    match c.calls[call]? with
    | some (.draining code stopRequested) => c.move call (.returned (exitStatus code stopRequested))
    | _ => c
  | .stop => { c with engine := c.engine.requestStop.2, history := c.history ++ [.asked ()] }
  | .push session entry =>
    if 1 ≤ session ∧ session ≤ c.engine.launches then
      { c with engine := c.engine.push session entry, pushed := c.pushed ++ [(session, entry)] }
    else c
  | .deleteSince index =>
    { c with engine := { c.engine with logs := c.engine.logs.dropThrough index } }
  | .control _ | .read => c

/-- What a list of actions leads to. -/
def run (c : Succession) (actions : List Action) : Succession := actions.foldl act c

/-- The statuses of the start calls, where a call that owns a child has none. -/
def outcomes (c : Succession) : List (Option Status) := c.calls.map (·.verdict?)

/-- The records that readers of a session pushed. -/
def pushedBy (c : Succession) (session : Nat) : List LogEntry :=
  (c.pushed.filter (·.1 = session)).map (·.2)

/-- Whether a status is that of the child that a call created, when a number of stops took effect on
it. -/
def Tells (exits : Nat → Option (Option Nat)) (children : List (Option Nat)) (call : Nat)
    (asked : List Unit) (status : Status) : Prop :=
  ∃ session code, children[call]? = some (some session) ∧ exits session = some code ∧
    status = exitStatus code !asked.isEmpty

theorem Tells.concat {exits : Nat → Option (Option Nat)} {children : List (Option Nat)} {call : Nat}
    {asked : List Unit} {status : Status} (h : Tells exits children call asked status)
    (child : Option Nat) : Tells exits (children ++ [child]) call asked status := by
  obtain ⟨session, code, hchild, hexit, rfl⟩ := h
  exact ⟨session, code, getElem?_concat_eq_some_iff.2 (.inl hchild), hexit, rfl⟩

/-- What every step keeps of the start calls. -/
structure Kept (c : Succession) : Prop where
  ledger : Ledger (Tells c.exits c.children)
    (fun status => status = .alreadyRunning ∨ status = .createFailed) c.history c.outcomes
  running : c.engine.running = (tenure c.history).isSome
  /-- The call that is served has created the latest child, and it knows the stops of its tenure. -/
  owner : ∀ call asked, tenure c.history = some (call, asked) →
    c.children[call]? = some (some c.engine.launches) ∧ c.engine.stopRequested = !asked.isEmpty
  noticed : ∀ (call : Nat) code, c.calls[call]? = some (.noticed code) →
    c.exits c.engine.launches = some code
  /-- Each child has a number. -/
  numbered : c.children.filterMap id = List.range' 1 c.engine.launches
  count : c.children.length = c.calls.length
  accepted : ∀ call : Nat,
    .accepted call ∈ c.history ↔ ∃ session, c.children[call]? = some (some session)
  /-- Only the child that is owned may not have exited. -/
  seen : ∀ session, 1 ≤ session → session ≤ c.engine.launches → c.exits session = none →
    c.owned = some session
  /-- A child to come has not exited. -/
  fresh : ∀ session, c.engine.launches < session → c.exits session = none

variable {c : Succession} {call : Nat} {asked : List Unit}

theorem kept_idle : idle.Kept where
  ledger := .nil
  running := rfl
  owner call asked ht := by cases ht
  noticed call code hc := by simp [idle] at hc
  numbered := rfl
  count := rfl
  accepted call := by simp [idle]
  seen session h1 h2 := by
    have h2' : session ≤ 0 := h2
    omega
  fresh session _ := rfl

/-- A call that goes on with the same status, or none. -/
theorem outcomes_move {p p' : ChildPoint} (hp : c.calls[call]? = some p)
    (hs : p'.verdict? = p.verdict?) : (c.move call p').outcomes = c.outcomes :=
  map_set_eq_of_getElem? hp hs

theorem outcomes_of_point {p : ChildPoint} (hp : c.calls[call]? = some p) :
    c.outcomes[call]? = some p.verdict? := by
  rw [outcomes, List.getElem?_map, hp]
  rfl

/-- A call that has seen the exit of its child stays so, where another one moves. -/
theorem noticed_move {p : ChildPoint} {other : Nat} {code : Option Nat}
    (h : (c.move call p).calls[other]? = some (.noticed code)) :
    c.calls[other]? = some (.noticed code) ∨ p = .noticed code := by
  rw [move, List.getElem?_set] at h
  split at h
  · split at h
    · exact .inr (Option.some.inj h)
    · cases h
  · exact .inl h

namespace Kept

theorem tenure_of_point (h : c.Kept) {p : ChildPoint} (hp : c.calls[call]? = some p)
    (hs : p.verdict? = none) : ∃ asked, tenure c.history = some (call, asked) := by
  rw [← h.ledger.serves_iff, outcomes_of_point hp, hs]

theorem running_of_tenure (h : c.Kept) (ht : tenure c.history = some (call, asked)) :
    c.engine.running = true := by
  rw [h.running, ht]
  rfl

theorem move (h : c.Kept) {p p' : ChildPoint} (hp : c.calls[call]? = some p)
    (hs : p'.verdict? = p.verdict?)
    (hn : ∀ code, p' = .noticed code → c.exits c.engine.launches = some code) :
    (c.move call p').Kept where
  ledger := by
    rw [outcomes_move hp hs]
    exact h.ledger
  running := h.running
  owner := h.owner
  noticed other code hc := by
    rcases noticed_move hc with hc | hc
    · exact h.noticed other code hc
    · exact hn code hc
  numbered := h.numbered
  count := h.count.trans (List.length_set ..).symm
  accepted := h.accepted
  seen := h.seen
  fresh := h.fresh

/-- A step that changes the engine and leaves its child alone. -/
theorem withEngine (h : c.Kept) {engine : ProcessEngine} (pushed : List (Nat × LogEntry))
    (hr : engine.running = c.engine.running) (hl : engine.launches = c.engine.launches)
    (hs : engine.stopRequested = c.engine.stopRequested) :
    Kept { c with engine := engine, pushed := pushed } where
  ledger := h.ledger
  running := hr.trans h.running
  owner call asked ht := by
    rw [hl, hs]
    exact h.owner call asked ht
  noticed := by
    rw [hl]
    exact h.noticed
  numbered := by
    rw [hl]
    exact h.numbered
  count := h.count
  accepted := h.accepted
  seen := by
    simp only [owned, hr, hl]
    exact h.seen
  fresh := by
    rw [hl]
    exact h.fresh

/-- Something happens while no child is created and none is seen to exit. -/
theorem between (h : c.Kept) {o : Occurrence Unit} (ho : o.isBetween = true)
    (hf : ∀ call, o = .fired call → .accepted call ∈ c.history) {engine : ProcessEngine}
    (hr : engine.running = c.engine.running) (hl : engine.launches = c.engine.launches)
    (hs : ∀ call asked, tenure (c.history ++ [o]) = some (call, asked) →
      engine.stopRequested = !asked.isEmpty) :
    Kept { c with engine := engine, history := c.history ++ [o] } where
  ledger := h.ledger.between ho hf
  running := by
    rw [hr, h.running, Bool.eq_iff_iff, Option.isSome_iff_exists, Option.isSome_iff_exists,
      Prod.exists, Prod.exists]
    simp only [exists_tenure_concat_iff ho]
  owner call asked ht := by
    obtain ⟨asked', ht'⟩ := (exists_tenure_concat_iff ho).1 ⟨asked, ht⟩
    refine ⟨?_, hs call asked ht⟩
    rw [hl]
    exact (h.owner call asked' ht').1
  noticed := by
    rw [hl]
    exact h.noticed
  numbered := by
    rw [hl]
    exact h.numbered
  count := h.count
  accepted call := by
    rw [← h.accepted, List.mem_append, List.mem_singleton]
    refine or_iff_left ?_
    rintro rfl
    cases ho
  seen := by
    simp only [owned, hr, hl]
    exact h.seen
  fresh := by
    rw [hl]
    exact h.fresh

theorem fire (h : c.Kept) (hp : c.calls[call]? = some .announcing) :
    Kept { c.move call .watching with history := c.history ++ [.fired call] } := by
  obtain ⟨asked, ht⟩ := h.tenure_of_point hp rfl
  have hmove : (c.move call .watching).Kept := h.move hp rfl (by simp)
  refine hmove.between (o := .fired call) rfl ?_ rfl rfl ?_
  · rintro other ho
    cases ho
    exact accepted_mem_of_tenure ht
  · intro other asked' ht'
    exact (h.owner other asked' ((tenure_fired _ _).symm.trans ht')).2

/-- **A call looks at its own child**, which is the one that the engine holds. -/
theorem look_eq (h : c.Kept) (hp : c.calls[call]? = some .watching) :
    c.children[call]? = some (some c.engine.launches) ∧
      c.look call = match c.exits c.engine.launches with
        | none => c
        | some code => c.move call (.noticed code) := by
  obtain ⟨asked, ht⟩ := h.tenure_of_point hp rfl
  refine ⟨(h.owner call asked ht).1, ?_⟩
  rw [look, owned, if_pos (h.running_of_tenure ht)]

theorem look (h : c.Kept) (hp : c.calls[call]? = some .watching) : (c.look call).Kept := by
  rw [(h.look_eq hp).2]
  cases hx : c.exits c.engine.launches with
  | none => exact h
  | some code =>
    refine h.move hp rfl fun code' hc => ?_
    cases hc
    exact hx

/-- An exit is recorded, and with it whether a stop took effect on the child. -/
theorem recordExit (h : c.Kept) {code : Option Nat}
    (hp : c.calls[call]? = some (.noticed code)) : (c.recordExit call code).Kept := by
  obtain ⟨asked, ht⟩ := h.tenure_of_point hp rfl
  obtain ⟨hchild, hstop⟩ := h.owner call asked ht
  have hexit := h.noticed call code hp
  have htells : Tells c.exits c.children call asked
      (exitStatus code c.engine.stopRequested) := by
    rw [hstop]
    exact ⟨_, code, hchild, hexit, rfl⟩
  exact {
    ledger := by
      have hledger := h.ledger.finish ht htells
      simpa [Succession.recordExit, ProcessEngine.recordExit, outcomes, List.map_set,
        ChildPoint.verdict?] using hledger
    running := by
      rw [Succession.recordExit, tenure_finished]
      rfl
    owner := fun other asked' ht' => by
      rw [Succession.recordExit, tenure_finished] at ht'
      cases ht'
    noticed := fun other code' hc => by
      rcases noticed_move (p := .draining code _) hc with hc | hc
      · exact h.noticed other code' hc
      · cases hc
    numbered := h.numbered
    count := h.count.trans (List.length_set ..).symm
    accepted := fun other => by
      have hmem : .accepted other ∈ c.history ++ [.finished call] ↔
          .accepted other ∈ c.history := by
        simp
      exact hmem.trans (h.accepted other)
    seen := fun session h1 h2 hx => by
      have howned := h.seen session h1 h2 hx
      rw [owned, if_pos (h.running_of_tenure ht), Option.some.injEq] at howned
      rw [howned] at hexit
      cases hx.symm.trans hexit
    fresh := h.fresh }

/-- A child exits once. -/
theorem exit (h : c.Kept) {session : Nat} (code : Option Nat) (hs : session ≤ c.engine.launches)
    (hx : c.exits session = none) :
    Kept { c with exits := Function.update c.exits session (some code) } := by
  have hother {s : Nat} (hne : s ≠ session) :
      Function.update c.exits session (some code) s = c.exits s := Function.update_of_ne hne _ _
  have hold {s : Nat} {code' : Option Nat} (hexit : c.exits s = some code') :
      Function.update c.exits session (some code) s = some code' := by
    rw [hother, hexit]
    rintro rfl
    cases hx.symm.trans hexit
  exact { h with
    ledger := h.ledger.mono fun call asked status hp => by
      obtain ⟨s, code', hchild, hexit, rfl⟩ := hp
      exact ⟨s, code', hchild, hold hexit, rfl⟩
    noticed := fun call code' hc => hold (h.noticed call code' hc)
    seen := fun s h1 h2 hn => by
      refine h.seen s h1 h2 ((hother ?_).symm.trans hn)
      rintro rfl
      simp at hn
    fresh := fun s hlt => by
      have hlt' : c.engine.launches < s := hlt
      exact (hother (by omega)).trans (h.fresh s hlt) }

/-- A stop takes effect on the child that is owned, and on no other. -/
theorem stop (h : c.Kept) : (c.act .stop).Kept := by
  have hstop : c.engine.requestStop.2.running = c.engine.running ∧
      c.engine.requestStop.2.launches = c.engine.launches := by
    unfold ProcessEngine.requestStop
    split <;> exact ⟨rfl, rfl⟩
  refine h.between (o := .asked ()) rfl (by simp) hstop.1 hstop.2 fun call asked ht => ?_
  rw [tenure_asked, Option.map_eq_some_iff] at ht
  obtain ⟨⟨call', asked'⟩, ht', heq⟩ := ht
  cases heq
  simp [ProcessEngine.requestStop, h.running_of_tenure ht']

/-- A start call that is refused creates no child. -/
theorem refuse (h : c.Kept) {status : Status}
    (hst : status = .alreadyRunning ∨ status = .createFailed) :
    Kept { c with calls := c.calls ++ [.returned status], children := c.children ++ [none] } where
  ledger := by
    have hledger := (h.ledger.refuse hst).mono fun _ _ _ hp => hp.concat none
    simpa [outcomes, ChildPoint.verdict?] using hledger
  running := h.running
  owner call asked ht := by
    obtain ⟨hchild, hstop⟩ := h.owner call asked ht
    exact ⟨getElem?_concat_eq_some_iff.2 (.inl hchild), hstop⟩
  noticed call code hc := by
    rcases getElem?_concat_eq_some_iff.1 hc with hc | ⟨-, heq⟩
    · exact h.noticed call code hc
    · cases heq
  numbered := by simpa using h.numbered
  count := by simp [h.count]
  accepted call := by
    simp only [h.accepted, getElem?_concat_eq_some_iff]
    simp
  seen := h.seen
  fresh := h.fresh

/-- A start call that creates a child while none is owned. -/
theorem accept (h : c.Kept) (hr : c.engine.running = false) {engine : ProcessEngine}
    (hr' : engine.running = true) (hl : engine.launches = c.engine.launches + 1)
    (hs : engine.stopRequested = false) :
    Kept { c with
      engine := engine
      calls := c.calls ++ [.announcing]
      children := c.children ++ [some engine.launches]
      history := c.history ++ [.accepted c.calls.length] } where
  ledger := by
    have ht : tenure c.history = none := by simpa [hr] using h.running.symm
    have hledger := (h.ledger.accept ht).mono fun _ _ _ hp => hp.concat (some engine.launches)
    simpa [outcomes, ChildPoint.verdict?] using hledger
  running := by
    rw [hr', tenure_accepted]
    rfl
  owner call asked ht := by
    rw [tenure_accepted] at ht
    cases ht
    exact ⟨getElem?_concat_eq_some_iff.2 (.inr ⟨h.count.symm, rfl⟩), hs⟩
  noticed call code hc := by
    rcases getElem?_concat_eq_some_iff.1 hc with hc | ⟨-, heq⟩
    -- no child is owned, so no call has seen one exit without recording it
    · obtain ⟨asked, ht⟩ := h.tenure_of_point hc rfl
      cases hr.symm.trans (h.running_of_tenure ht)
    · cases heq
  numbered := by
    rw [List.filterMap_append, h.numbered, hl, List.range'_concat]
    simp [Nat.add_comm]
  count := by simp [h.count]
  accepted call := by
    simp only [List.mem_append, List.mem_singleton, h.accepted, getElem?_concat_eq_some_iff,
      exists_or, h.count]
    simp
  seen session h1 h2 hx := by
    have h2' : session ≤ engine.launches := h2
    rw [owned, if_pos hr']
    by_cases hle : session ≤ c.engine.launches
    · have howned := h.seen session h1 hle hx
      rw [owned, hr] at howned
      cases howned
    · exact congrArg some (by omega : engine.launches = session)
  fresh session hlt := by
    have hlt' : engine.launches < session := hlt
    exact h.fresh session (by omega)

end Kept

/-- A start call while a child is owned is refused and leaves nothing but its status. -/
theorem start_running (hr : c.engine.running = true) (created : Except IoError String) :
    c.act (.start created) = { c with
      calls := c.calls ++ [.returned .alreadyRunning]
      children := c.children ++ [none] } := by
  simp [act, ProcessEngine.launch, Launch.refused, hr]

theorem start_error (hr : c.engine.running = false) (e : IoError) :
    c.act (.start (.error e)) = { c with
      calls := c.calls ++ [.returned .createFailed]
      children := c.children ++ [none] } := by
  simp [act, ProcessEngine.launch, Launch.refused, hr]

/-- A start call whose child is created while none is owned is served, by an engine that knows
nothing of earlier sessions. -/
theorem start_ok (hr : c.engine.running = false) (name : String) :
    c.act (.start (.ok name)) = { c with
      engine := ⟨c.engine.launches + 1, true, true, false, name, []⟩
      calls := c.calls ++ [.announcing]
      children := c.children ++ [some (c.engine.launches + 1)]
      history := c.history ++ [.accepted c.calls.length] } := by
  simp [act, ProcessEngine.launch, Launch.serving, hr]

theorem Kept.start (h : c.Kept) (created : Except IoError String) :
    (c.act (.start created)).Kept := by
  cases hr : c.engine.running with
  | true =>
    rw [start_running hr]
    exact h.refuse (.inl rfl)
  | false =>
    cases created with
    | error e =>
      rw [start_error hr]
      exact h.refuse (.inr rfl)
    | ok name =>
      rw [start_ok hr]
      exact h.accept hr rfl rfl rfl

/-- **What every step keeps** of the start calls. -/
theorem kept_act (h : c.Kept) (a : Action) : (c.act a).Kept := by
  cases a with
  | start created => exact h.start created
  | fire call =>
    rw [act]
    split
    · next hp => exact h.fire hp
    · exact h
  | exit session code =>
    rw [act]
    split
    · next hx => exact h.exit code hx.2.1 hx.2.2
    · exact h
  | notice call =>
    rw [act]
    split
    · next hp => exact h.look hp
    · exact h
  | record call =>
    rw [act]
    split
    · next hp => exact h.recordExit hp
    · exact h
  | giveBack call =>
    rw [act]
    split
    · next hp => exact h.move hp rfl (by simp)
    · exact h
  | stop => exact h.stop
  | push session entry =>
    rw [act]
    split
    · refine h.withEngine _ ?_ ?_ ?_ <;> rw [ProcessEngine.push] <;> split <;> rfl
    · exact h
  | deleteSince index => exact h.withEngine c.pushed rfl rfl rfl
  | control taken => exact h
  | read => exact h

/-- What every step keeps of the records: those that are held are the last ones that readers of the
latest session pushed. -/
structure Heard (c : Succession) : Prop where
  known : ∀ session entry, (session, entry) ∈ c.pushed → session ≤ c.engine.launches
  held : ∃ dropped, c.pushedBy c.engine.launches = dropped ++ c.engine.logs

theorem heard_idle : idle.Heard where
  known session entry hm := by cases hm
  held := ⟨[], rfl⟩

namespace Heard

theorem congr (h : c.Heard) {d : Succession} (hp : d.pushed = c.pushed)
    (hl : d.engine.launches = c.engine.launches) (hh : d.engine.logs = c.engine.logs) :
    d.Heard where
  known := by
    rw [hp, hl]
    exact h.known
  held := by
    rw [pushedBy, hp, hl, hh]
    exact h.held

/-- A new session holds no record of another one. -/
theorem launch (h : c.Heard) {d : Succession} (hp : d.pushed = c.pushed)
    (hl : d.engine.launches = c.engine.launches + 1) (hh : d.engine.logs = []) : d.Heard where
  known session entry hm := by
    rw [hp] at hm
    rw [hl]
    exact Nat.le_succ_of_le (h.known session entry hm)
  held := by
    refine ⟨[], ?_⟩
    have hnone : c.pushed.filter (·.1 = c.engine.launches + 1) = [] := by
      rw [List.filter_eq_nil_iff]
      rintro ⟨session, entry⟩ hm
      have hle := h.known session entry hm
      simp only [decide_eq_true_eq]
      omega
    rw [hh, pushedBy, hp, hl, hnone]
    rfl

/-- A reader of the latest session is heard, and one of an earlier session is not. -/
theorem push (h : c.Heard) {session : Nat} (entry : LogEntry) (hs : session ≤ c.engine.launches) :
    Heard { c with
      engine := c.engine.push session entry
      pushed := c.pushed ++ [(session, entry)] } := by
  have hl : (c.engine.push session entry).launches = c.engine.launches := by
    unfold ProcessEngine.push
    split <;> rfl
  have hknown : ∀ s e, (s, e) ∈ c.pushed ++ [(session, entry)] →
      s ≤ (c.engine.push session entry).launches := by
    intro s e hm
    rw [hl]
    rcases List.mem_append.1 hm with hm | hm
    · exact h.known s e hm
    · cases List.mem_singleton.1 hm
      exact hs
  refine ⟨hknown, ?_⟩
  obtain ⟨dropped, hd⟩ := h.held
  refine ⟨dropped, ?_⟩
  rw [pushedBy] at hd
  rw [pushedBy, hl, List.filter_append, List.map_append, hd, ProcessEngine.push]
  -- the engine and the history of the latest session both take the record, or both leave it out
  by_cases heq : session = c.engine.launches <;> simp [heq]

theorem deleteSince (h : c.Heard) (index : Nat) :
    Heard { c with engine := { c.engine with logs := c.engine.logs.dropThrough index } } where
  known := h.known
  held := by
    obtain ⟨dropped, hd⟩ := h.held
    unfold HeldLog.dropThrough
    split
    · refine ⟨dropped ++ c.engine.logs.take (index + 1), ?_⟩
      rw [List.append_assoc, List.take_append_drop]
      exact hd
    · exact ⟨dropped, hd⟩

end Heard

/-- **What every step keeps** of the records. -/
theorem heard_act (h : c.Heard) (a : Action) : (c.act a).Heard := by
  cases a with
  | start created =>
    cases hr : c.engine.running with
    | true =>
      rw [start_running hr]
      exact h.congr rfl rfl rfl
    | false =>
      cases created with
      | error e =>
        rw [start_error hr]
        exact h.congr rfl rfl rfl
      | ok name =>
        rw [start_ok hr]
        exact h.launch rfl rfl rfl
  | fire call =>
    rw [act]
    split <;> exact h.congr rfl rfl rfl
  | exit session code =>
    rw [act]
    split <;> exact h.congr rfl rfl rfl
  | notice call =>
    rw [act]
    unfold look
    split
    · split
      · exact h.congr rfl rfl rfl
      · split <;> exact h.congr rfl rfl rfl
    · exact h
  | record call =>
    rw [act]
    split <;> exact h.congr rfl rfl rfl
  | giveBack call =>
    rw [act]
    split <;> exact h.congr rfl rfl rfl
  | stop =>
    rw [act, ProcessEngine.requestStop]
    split <;> exact h.congr rfl rfl rfl
  | push session entry =>
    rw [act]
    split
    · next hs => exact h.push entry hs.2
    · exact h
  | deleteSince index => exact h.deleteSince index
  | control taken => exact h
  | read => exact h

theorem kept_run (h : c.Kept) (actions : List Action) : (c.run actions).Kept := by
  induction actions generalizing c with
  | nil => exact h
  | cons a actions ih => exact ih (kept_act h a)

theorem heard_run (h : c.Heard) (actions : List Action) : (c.run actions).Heard := by
  induction actions generalizing c with
  | nil => exact h
  | cons a actions ih => exact ih (heard_act h a)

/-- Each child was created by one call. -/
theorem Kept.eq_of_child (h : c.Kept) {i j session : Nat}
    (hi : c.children[i]? = some (some session)) (hj : c.children[j]? = some (some session)) :
    i = j := by
  have hnodup : (c.children.filterMap id).Nodup := by
    rw [h.numbered]
    exact List.nodup_range'
  rw [List.Nodup, List.pairwise_filterMap, List.pairwise_iff_getElem] at hnodup
  obtain ⟨hilt, hi⟩ := List.getElem?_eq_some_iff.1 hi
  obtain ⟨hjlt, hj⟩ := List.getElem?_eq_some_iff.1 hj
  rcases Nat.lt_trichotomy i j with hlt | heq | hlt
  · exact absurd rfl (hnodup i j hilt hjlt hlt session hi session hj)
  · exact heq
  · exact absurd rfl (hnodup j i hjlt hilt hlt session hj session hi)

theorem act_record {code : Option Nat} (hp : c.calls[call]? = some (.noticed code)) :
    (c.act (.record call)).calls[call]? = some (.draining code c.engine.stopRequested) := by
  have hlt := (List.getElem?_eq_some_iff.1 hp).1
  rw [act, hp]
  simp [recordExit, ProcessEngine.recordExit, hlt]

theorem act_giveBack {code : Option Nat} {stopRequested : Bool}
    (hp : c.calls[call]? = some (.draining code stopRequested)) :
    (c.act (.giveBack call)).calls[call]? = some (.returned (exitStatus code stopRequested)) := by
  have hlt := (List.getElem?_eq_some_iff.1 hp).1
  rw [act, hp]
  simp [move, hlt]

/-- A call that is served sees the exit of its child, now or before. -/
theorem Kept.act_notice (h : c.Kept) (ht : tenure c.history = some (call, asked))
    {code : Option Nat} (hx : c.exits c.engine.launches = some code) :
    ((c.act (.fire call)).act (.notice call)).calls[call]? = some (.noticed code) ∧
      ((c.act (.fire call)).act (.notice call)).engine = c.engine := by
  have hout : c.outcomes[call]? = some none := (h.ledger.serves_iff call).2 ⟨_, ht⟩
  obtain ⟨p, hp, hn⟩ : ∃ p, c.calls[call]? = some p ∧ p.verdict? = none := by
    rwa [outcomes, List.getElem?_map, Option.map_eq_some_iff] at hout
  obtain ⟨hlt, hpoint⟩ := List.getElem?_eq_some_iff.1 hp
  have hrun := h.running_of_tenure ht
  cases p with
  | announcing => simp [act, Succession.move, Succession.look, owned, hlt, hpoint, hrun, hx]
  | watching => simp [act, Succession.move, Succession.look, owned, hlt, hpoint, hrun, hx]
  | noticed code' =>
    cases (h.noticed call code' hp).symm.trans hx
    simp [act, hlt, hpoint]
  | draining code stopRequested => cases hn
  | returned status => cases hn

/-- A call whose child has exited records so, and returns, once it goes on. -/
theorem Kept.conclude (h : c.Kept) (ht : tenure c.history = some (call, asked)) {code : Option Nat}
    (hx : c.exits c.engine.launches = some code) :
    let d := ((c.act (.fire call)).act (.notice call)).act (.record call)
    (d.act (.giveBack call)).calls[call]? = some (.returned (exitStatus code !asked.isEmpty)) := by
  obtain ⟨hnoticed, he⟩ := h.act_notice ht hx
  have hrecord := act_record hnoticed
  rw [he, (h.owner call asked ht).2] at hrecord
  exact act_giveBack hrecord

/-- What a status tells of the exit code and of the stops that took effect. -/
theorem exitStatus_eq (code : Option Nat) (asked : List Unit) :
    exitStatus code (!asked.isEmpty) =
      if code = some 2 ∧ asked = [] then .panicked else .exited := by
  simp [exitStatus, crashCode]

/-- **The sessions of a run.** However the steps come, at most one call owns a child, which is the
latest one, and all other children have exited. A start call while a child is owned, and one whose
child cannot be created, leaves nothing but its status and never fires readiness. Any other call is
served: it has a child of its own, readiness is still to be fired, no stop has taken effect and no
record is held. Once the exit of its child was recorded, the status says that the engine crashed
exactly if the child exited with the code for it and no stop took effect from its creation to that
moment; once the child has exited, the call goes on to return this status. A stop while no child is
owned changes nothing. The records that are held are the last ones of those that readers of the
latest session pushed. -/
theorem succession_run (actions : List Action) :
    let c := idle.run actions
    (∀ i j : Nat, c.outcomes[i]? = some none → c.outcomes[j]? = some none → i = j) ∧
      (c.engine.running = true ↔ ∃ i : Nat, c.outcomes[i]? = some none) ∧
      (∀ session, 1 ≤ session → session ≤ c.engine.launches → c.exits session = none →
        c.owned = some session) ∧
      (∀ created, c.engine.running = true → c.act (.start created) = { c with
        calls := c.calls ++ [.returned .alreadyRunning]
        children := c.children ++ [none] }) ∧
      (∀ e, c.engine.running = false → c.act (.start (.error e)) = { c with
        calls := c.calls ++ [.returned .createFailed]
        children := c.children ++ [none] }) ∧
      (∀ name, c.engine.running = false → c.act (.start (.ok name)) = { c with
        engine := ⟨c.engine.launches + 1, true, true, false, name, []⟩
        calls := c.calls ++ [.announcing]
        children := c.children ++ [some (c.engine.launches + 1)]
        history := c.history ++ [.accepted c.calls.length] }) ∧
      (∀ i : Nat, c.children[i]? = some none → .fired i ∉ c.history) ∧
      (∀ i j session : Nat, c.children[i]? = some (some session) →
        c.children[j]? = some (some session) → i = j) ∧
      (∀ (i session : Nat) status, c.children[i]? = some (some session) →
        c.outcomes[i]? = some (some status) → ∃ asked, Served c.history i asked) ∧
      (∀ i asked, Served c.history i asked → ∃ session code,
        c.children[i]? = some (some session) ∧ c.exits session = some code ∧
        c.outcomes[i]? =
          some (some (if code = some 2 ∧ asked = [] then .panicked else .exited))) ∧
      (∀ i asked code, tenure c.history = some (i, asked) →
        c.exits c.engine.launches = some code →
        let d := ((c.act (.fire i)).act (.notice i)).act (.record i)
        (d.act (.giveBack i)).calls[i]? =
          some (.returned (if code = some 2 ∧ asked = [] then .panicked else .exited))) ∧
      (tenure c.history = none →
        c.act .stop = { c with history := c.history ++ [.asked ()] }) ∧
      (∀ i asked, tenure c.history = some (i, asked) →
        c.children[i]? = some (some c.engine.launches)) ∧
      ∃ dropped, c.pushedBy c.engine.launches = dropped ++ c.engine.logs := by
  intro c
  have h : c.Kept := kept_run kept_idle actions
  refine ⟨fun i j hi hj => h.ledger.eq_of_serves hi hj, ?_, h.seen,
    fun created hr => start_running hr created, fun e hr => start_error hr e,
    fun name hr => start_ok hr name, ?_, fun i j session hi hj => h.eq_of_child hi hj, ?_, ?_, ?_, ?_,
    fun i asked ht => (h.owner i asked ht).1, (heard_run heard_idle actions).held⟩
  · simp only [h.ledger.serves_iff, h.running]
    rw [Option.isSome_iff_exists, Prod.exists]
  · intro i hc hf
    obtain ⟨session, hchild⟩ := (h.accepted i).1 (h.ledger.fired i hf)
    cases hc.symm.trans hchild
  · intro i session status hchild hc
    rcases h.ledger.returned i status hc with hserved | ⟨hn, -⟩
    · exact hserved
    · exact absurd ((h.accepted i).2 ⟨session, hchild⟩) hn
  · intro i asked hserved
    obtain ⟨status, ⟨session, code, hchild, hx, rfl⟩, hc⟩ := h.ledger.served i asked hserved
    rw [exitStatus_eq] at hc
    exact ⟨session, code, hchild, hx, hc⟩
  · intro i asked code ht hx
    rw [← exitStatus_eq]
    exact h.conclude ht hx
  · intro ht
    have hr : c.engine.running = false := by rw [h.running, ht]; rfl
    simp [act, ProcessEngine.requestStop, hr]

/-- Two children exit with the code for a crash, the second one after a stop. The first session is
told as a crash and the second one is not, and a reader of the first one that goes on is not
heard. -/
theorem succession_run_stopped :
    let entry : LogEntry := ⟨1, "a"⟩
    let late : LogEntry := ⟨1, "b"⟩
    let actions : List Action :=
      [.start (.error .notFound), .start (.ok "e:1"), .start (.ok "e:2"), .fire 1, .exit 1 (some 2),
        .notice 1, .record 1, .stop, .start (.ok "e:3"), .giveBack 1, .push 1 late, .push 2 entry,
        .fire 3, .stop, .exit 2 (some 2), .notice 3]
    let c := idle.run actions
    let d := c.act (.record 3)
    c.calls = [.returned .createFailed, .returned .panicked, .returned .alreadyRunning,
        .noticed (some 2)] ∧
      c.children = [none, some 1, none, some 2] ∧ c.engine.running = true ∧
      c.engine.logs = [entry] ∧ c.pushed = [(1, late), (2, entry)] ∧
      Served c.history 1 [] ∧ c.outcomes[1]? = some (some .panicked) ∧ .fired 0 ∉ c.history ∧
      tenure c.history = some (3, [()]) ∧
      (d.act (.giveBack 3)).calls[3]? = some (.returned .exited) ∧
      (d.act (.start (.ok "e:4"))).calls[4]? = some .announcing ∧
      (d.act (.start (.ok "e:4"))).children[4]? = some (some 3) := by
  intro entry late actions c d
  obtain ⟨-, -, -, -, -, -, hnever, -, -, hserved, hconclude, -, -, -⟩ := succession_run actions
  obtain ⟨-, -, -, -, -, hlaunch, -⟩ := succession_run (actions ++ [.record 3])
  have hs : Served c.history 1 [] :=
    ⟨[], [.fired 1], c.history.drop 3, rfl, by simp [Occurrence.isBetween], rfl⟩
  obtain ⟨session, code, hchild, hexit, hstatus⟩ := hserved 1 [] hs
  obtain rfl : 1 = session := Option.some.inj (Option.some.inj hchild)
  obtain rfl : some 2 = code := Option.some.inj hexit
  have hnext : d.act (.start (.ok "e:4")) = _ := hlaunch "e:4" rfl
  refine ⟨rfl, rfl, rfl, rfl, rfl, hs, hstatus, hnever 0 rfl, rfl, ?_, ?_, ?_⟩
  · exact hconclude 3 [()] (some 2) rfl rfl
  · rw [hnext]
    rfl
  · rw [hnext]
    rfl

end Succession

end ProxyControl
