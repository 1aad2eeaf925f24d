import ProxyControl.Engine.Memory
import ProxyControl.Proofs.Engine.Tenure

/-!
# Any number of callers of an engine in memory

The engine in memory is shared. A start call has two sections that nothing else comes between: in
the first one it is accepted or refused, and in the last one, after it has fired readiness and has
waited, it ends its session. All other calls are one section each. Here the sections of any number
of callers come in any order. A start call that finds no request to end its session falls asleep,
and it is woken by the first request, or for no reason at all.

The engine marks a request only if a session is served and was not asked to end before, and the call
that is served takes the mark away together with the session. So a request is neither lost, even if
it is made before the call falls asleep, nor left to the next session.

## Main definitions

* `CallerPoint`: how far a start call is
* `Callers`: the engine, its start calls and their history
* `Callers.act`, `Callers.run`: what may happen, and what it leads to
* `Callers.Kept`: what holds after every section

## Main results

* `Callers.kept_act`: what every section keeps
* `Callers.lifecycle_run`: the sessions of every run
-/

set_option autoImplicit false

namespace ProxyControl

/-- How far a start call is. -/
inductive CallerPoint where
  /-- It was accepted and has not fired readiness. -/
  | announcing
  /-- It is about to look for a request to end its session. -/
  | looking
  /-- It waits to be woken. -/
  | asleep
  | returned (status : Status)
  deriving DecidableEq, Repr

namespace CallerPoint

/-- The status that the call returned, or nothing between its first section and its last one. -/
def status? : CallerPoint → Option Status
  | .announcing | .looking | .asleep => none
  | .returned status => some status

/-- The call woken, if it is asleep. -/
def rouse : CallerPoint → CallerPoint
  | .asleep => .looking
  | p => p

@[simp] theorem status?_rouse (p : CallerPoint) : p.rouse.status? = p.status? := by
  cases p <;> rfl

theorem rouse_ne_asleep (p : CallerPoint) : p.rouse ≠ .asleep := by
  cases p <;> simp [rouse]

end CallerPoint

/-- An engine in memory that any number of callers share. -/
structure Callers where
  engine : MemoryEngine
  /-- All start calls, in the order in which they were made. -/
  calls : List CallerPoint
  /-- What happened, with the requests to end a session. -/
  history : List (Occurrence Ending)

namespace Callers

/-- What may happen: one section of one call. -/
inductive Action where
  /-- The first section of a new start call. -/
  | start (now : Nat) (params : StartParams)
  /-- A start call fires readiness. -/
  | fire (call : Nat)
  /-- A start call looks for a request. It is its last section if there is one. -/
  | look (call : Nat)
  /-- A start call wakes for no reason. -/
  | wake (call : Nat)
  /-- A session is asked to end. -/
  | ask (ending : Ending)
  | push (entry : LogEntry)
  | switchMode (constant : UInt32)
  | setMitm (on : Bool)
  | setFailCreation (fails : Bool)
  /-- Records are dropped through an index. -/
  | deleteSince (index : Nat)
  /-- A call that only reads. -/
  | read

/-- An engine that was never called. -/
def idle : Callers := ⟨.idle, [], []⟩

/-- A start call that is about to look does so. -/
def look (c : Callers) (call : Nat) : Callers :=
  match c.engine.finish? with
  | some (status, engine) =>
    { engine := engine
      calls := (c.calls.map (·.rouse)).set call (.returned status)
      history := c.history ++ [.finished call] }
  | none => { c with calls := c.calls.set call .asleep }

/-- A session is asked to end. The request that counts wakes the start call. -/
def ask (c : Callers) (ending : Ending) : Callers :=
  { engine := c.engine.requestEnd ending
    calls := if c.engine.running && c.engine.ending.isNone then c.calls.map (·.rouse) else c.calls
    history := c.history ++ [.asked ending] }

/-- What a section leads to; one that cannot happen changes nothing. -/
def act (c : Callers) : Action → Callers
  | .start now params =>
    match c.engine.start now params with
    | (⟨_, some status⟩, engine) =>
      { c with engine := engine, calls := c.calls ++ [.returned status] }
    | (⟨_, none⟩, engine) =>
      { engine := engine
        calls := c.calls ++ [.announcing]
        history := c.history ++ [.accepted c.calls.length] }
  | .fire call =>
    if c.calls[call]? = some .announcing then
      { c with calls := c.calls.set call .looking, history := c.history ++ [.fired call] }
    else c
  | .look call => if c.calls[call]? = some .looking then c.look call else c
  | .wake call =>
    if c.calls[call]? = some .asleep then { c with calls := c.calls.set call .looking } else c
  | .ask ending => c.ask ending
  | .push entry => { c with engine := c.engine.push entry }
  | .switchMode constant => { c with engine := (c.engine.switchMode constant).2 }
  | .setMitm on => { c with engine := c.engine.setMitm on }
  | .setFailCreation fails => { c with engine := c.engine.setFailCreation fails }
  | .deleteSince index =>
    { c with engine := { c.engine with logs := c.engine.logs.dropThrough index } }
  | .read => c

/-- What a list of sections leads to. -/
def run (c : Callers) (actions : List Action) : Callers := actions.foldl act c

/-- What the start calls returned, each of them nothing between its first section and its last. -/
def outcomes (c : Callers) : List (Option Status) := c.calls.map (·.status?)

/-- What every section keeps. -/
structure Kept (c : Callers) : Prop where
  /-- A call whose session has ended tells of the first request in its tenure. -/
  ledger : Ledger (fun _ asked status => asked.head?.map Ending.status = some status)
    (fun status => status = .alreadyRunning ∨ status = .createFailed) c.history c.outcomes
  running : c.engine.running = (tenure c.history).isSome
  /-- The engine marks the first request in the tenure. -/
  ending : c.engine.ending = (tenure c.history).bind fun (_, asked) => asked.head?
  mode : c.engine.mode.isSome = c.engine.running
  /-- A call is asleep only while nothing was asked. -/
  awake : ∀ call asked, tenure c.history = some (call, asked) → c.calls[call]? = some .asleep →
    asked = []

variable {c : Callers} {call : Nat} {asked : List Ending}

theorem kept_idle : idle.Kept where
  ledger := .nil
  running := rfl
  ending := rfl
  mode := rfl
  awake call asked ht := by cases ht

/-- A call that goes on without returning. -/
theorem map_status?_set {p q : CallerPoint} (hp : c.calls[call]? = some p)
    (hs : q.status? = p.status?) : (c.calls.set call q).map (·.status?) = c.outcomes :=
  map_set_eq_of_getElem? hp hs

theorem map_status?_rouse (c : Callers) :
    (c.calls.map (·.rouse)).map (·.status?) = c.outcomes := by
  simp [outcomes, Function.comp_def]

theorem outcomes_of_point {p : CallerPoint} (hp : c.calls[call]? = some p) :
    c.outcomes[call]? = some p.status? := by
  rw [outcomes, List.getElem?_map, hp]
  rfl

namespace Kept

/-- A call at a point before its last section is the one that is served. -/
theorem tenure_of_point (h : c.Kept) {p : CallerPoint} (hp : c.calls[call]? = some p)
    (hs : p.status? = none) : ∃ asked, tenure c.history = some (call, asked) := by
  rw [← h.ledger.serves_iff, outcomes_of_point hp, hs]

theorem running_of_tenure (h : c.Kept) (ht : tenure c.history = some (call, asked)) :
    c.engine.running = true := by
  rw [h.running, ht]
  rfl

theorem ending_of_tenure (h : c.Kept) (ht : tenure c.history = some (call, asked)) :
    c.engine.ending = asked.head? := by
  rw [h.ending, ht]
  rfl

/-- A section that only changes the engine, and neither the session nor the request to end it. -/
theorem withEngine (h : c.Kept) {engine : MemoryEngine} (hr : engine.running = c.engine.running)
    (he : engine.ending = c.engine.ending) (hm : engine.mode.isSome = c.engine.mode.isSome) :
    Kept { c with engine := engine } :=
  { h with
    running := hr.trans h.running
    ending := he.trans h.ending
    mode := hm.trans (h.mode.trans hr.symm) }

theorem fire (h : c.Kept) (hp : c.calls[call]? = some .announcing) :
    Kept { c with calls := c.calls.set call .looking, history := c.history ++ [.fired call] } := by
  obtain ⟨asked, ht⟩ := h.tenure_of_point hp rfl
  have hlt := (List.getElem?_eq_some_iff.1 hp).1
  have hledger := h.ledger.between (o := .fired call) rfl fun other ho => by
    cases ho
    exact accepted_mem_of_tenure ht
  rw [← map_status?_set (q := .looking) hp rfl] at hledger
  exact {
    ledger := hledger
    running := by rw [tenure_fired, h.running]
    ending := by rw [tenure_fired, h.ending]
    mode := h.mode
    awake := fun other asked' ht' hsleep => by
      rw [tenure_fired] at ht'
      cases ht.symm.trans ht'
      rw [List.getElem?_set_self hlt] at hsleep
      cases hsleep }

/-- A call that is served is woken, or it falls asleep while nothing was asked. -/
theorem move (h : c.Kept) {p q : CallerPoint} (hp : c.calls[call]? = some p)
    (hs : p.status? = none) (hs' : q.status? = none)
    (ha : q = .asleep → c.engine.ending = none) :
    Kept { c with calls := c.calls.set call q } := by
  obtain ⟨asked, ht⟩ := h.tenure_of_point hp hs
  have hlt := (List.getElem?_eq_some_iff.1 hp).1
  have hledger := h.ledger
  rw [← map_status?_set (q := q) hp (hs'.trans hs.symm)] at hledger
  exact { h with
    ledger := hledger
    awake := fun other asked' ht' hsleep => by
      cases ht.symm.trans ht'
      rw [List.getElem?_set_self hlt, Option.some.injEq] at hsleep
      exact List.head?_eq_none_iff.1 ((h.ending_of_tenure ht).symm.trans (ha hsleep)) }

/-- The last section of a call: its session was asked to end. -/
theorem finish (h : c.Kept) {ending : Ending} {rest : List Ending}
    (ht : tenure c.history = some (call, ending :: rest)) {engine : MemoryEngine}
    (hr : engine.running = false) (he : engine.ending = none) (hm : engine.mode = none) :
    Kept ⟨engine, (c.calls.map (·.rouse)).set call (.returned ending.status),
      c.history ++ [.finished call]⟩ := by
  have hledger := h.ledger.finish ht (b := ending.status) rfl
  rw [← map_status?_rouse] at hledger
  exact {
    ledger := by
      rw [outcomes, List.map_set]
      exact hledger
    running := by
      rw [hr, tenure_finished]
      rfl
    ending := by
      rw [he, tenure_finished]
      rfl
    mode := by
      rw [hr, hm]
      rfl
    awake := fun other asked' ht' => by
      rw [tenure_finished] at ht'
      cases ht' }

theorem look (h : c.Kept) (hp : c.calls[call]? = some .looking) : (c.look call).Kept := by
  obtain ⟨asked, ht⟩ := h.tenure_of_point hp rfl
  have he := h.ending_of_tenure ht
  unfold Callers.look MemoryEngine.finish?
  rw [if_pos (h.running_of_tenure ht), he]
  cases asked with
  | nil => exact h.move hp rfl rfl fun _ => he
  | cons ending rest => exact h.finish ht rfl rfl rfl

/-- The first request in a tenure is marked and wakes the call that is served. -/
theorem ask_first (h : c.Kept) (ht : tenure c.history = some (call, [])) (ending : Ending) :
    c.ask ending = ⟨{ c.engine with ending := some ending }, c.calls.map (·.rouse),
      c.history ++ [.asked ending]⟩ := by
  have hboth : (c.engine.running && c.engine.ending.isNone) = true := by
    rw [h.running_of_tenure ht, h.ending_of_tenure ht]
    rfl
  rw [Callers.ask, MemoryEngine.requestEnd, if_pos hboth, if_pos hboth]

/-- A request changes nothing while no call is served, or after another one. -/
theorem ask_again (h : c.Kept) (ht : ∀ call, tenure c.history ≠ some (call, []))
    (ending : Ending) : c.ask ending = { c with history := c.history ++ [.asked ending] } := by
  have hnot : ¬(c.engine.running && c.engine.ending.isNone) = true := by
    rw [h.running, h.ending]
    rcases hc : tenure c.history with _ | ⟨_, _ | ⟨_, _⟩⟩
    · simp
    · exact absurd hc (ht _)
    · simp
  rw [Callers.ask, MemoryEngine.requestEnd, if_neg hnot, if_neg hnot]

theorem ask (h : c.Kept) (ending : Ending) : (c.ask ending).Kept := by
  have hledger := h.ledger.between (o := .asked ending) rfl (by simp)
  by_cases hf : ∃ call, tenure c.history = some (call, [])
  · obtain ⟨call, ht⟩ := hf
    rw [h.ask_first ht ending]
    rw [← map_status?_rouse] at hledger
    exact {
      ledger := hledger
      running := by
        rw [tenure_asked, ht]
        exact h.running_of_tenure ht
      ending := by
        rw [tenure_asked, ht]
        rfl
      mode := h.mode
      awake := fun other asked _ hsleep => by
        rw [List.getElem?_map] at hsleep
        obtain ⟨p, -, hp⟩ := Option.map_eq_some_iff.1 hsleep
        exact absurd hp p.rouse_ne_asleep }
  · rw [h.ask_again (fun call ht => hf ⟨call, ht⟩)]
    exact {
      ledger := hledger
      running := by rw [tenure_asked, Option.isSome_map, h.running]
      ending := by
        rw [tenure_asked, h.ending]
        rcases hc : tenure c.history with _ | ⟨_, _ | ⟨_, _⟩⟩
        · rfl
        · exact absurd ⟨_, hc⟩ hf
        · rfl
      mode := h.mode
      awake := fun other asked' ht' hsleep => by
        rw [tenure_asked, Option.map_eq_some_iff] at ht'
        obtain ⟨⟨served, asked⟩, ht, heq⟩ := ht'
        cases heq
        -- a call that is asleep was asked for nothing, so this would be the first request
        obtain rfl := h.awake _ asked ht hsleep
        exact absurd ⟨_, ht⟩ hf }

end Kept

/-- A start call that is refused leaves nothing but its count and its status. -/
theorem start_refused {now : Nat} {params : StartParams}
    (hr : c.engine.running = true ∨ c.engine.failCreation = true) :
    c.act (.start now params) = { c with
      engine := { c.engine with startCalls := c.engine.startCalls + 1 }
      calls := c.calls ++
        [.returned (if c.engine.running then .alreadyRunning else .createFailed)] } := by
  cases hrun : c.engine.running with
  | true => simp [act, MemoryEngine.start, Launch.refused, hrun]
  | false =>
    have hf : c.engine.failCreation = true := by simpa [hrun] using hr
    simp [act, MemoryEngine.start, Launch.refused, hrun, hf]

theorem start_accepted {now : Nat} {params : StartParams} (hr : c.engine.running = false)
    (hf : c.engine.failCreation = false) :
    c.act (.start now params) = ⟨(c.engine.start now params).2, c.calls ++ [.announcing],
      c.history ++ [.accepted c.calls.length]⟩ := by
  simp [act, MemoryEngine.start, Launch.serving, hr, hf]

theorem Kept.start (h : c.Kept) (now : Nat) (params : StartParams) :
    (c.act (.start now params)).Kept := by
  by_cases hr : c.engine.running = true ∨ c.engine.failCreation = true
  · rw [start_refused hr]
    generalize hst : (if c.engine.running then Status.alreadyRunning else .createFailed) = status
    have hledger := h.ledger.refuse (b := status) (by rw [← hst]; split <;> simp)
    exact { h with
      ledger := by simpa [outcomes, CallerPoint.status?] using hledger
      awake := fun call asked ht hsleep => by
        rcases getElem?_concat_eq_some_iff.1 hsleep with hsleep | ⟨-, heq⟩
        · exact h.awake call asked ht hsleep
        · cases heq }
  · obtain ⟨hrun, hfail⟩ := not_or.1 hr
    rw [Bool.not_eq_true] at hrun hfail
    have ht : tenure c.history = none := by simpa [hrun] using h.running.symm
    have hledger := h.ledger.accept ht
    rw [start_accepted hrun hfail]
    exact {
      ledger := by simpa [outcomes, CallerPoint.status?] using hledger
      running := by simp [MemoryEngine.start, hrun, hfail]
      ending := by simp [MemoryEngine.start, hrun, hfail]
      mode := by simp [MemoryEngine.start, hrun, hfail]
      awake := fun call asked ht' hsleep => by
        rw [tenure_accepted] at ht'
        cases ht'
        rfl }

/-- **What every section keeps.** -/
theorem kept_act (h : c.Kept) (a : Action) : (c.act a).Kept := by
  cases a with
  | start now params => exact h.start now params
  | fire call =>
    rw [act]
    split
    · next hp => exact h.fire hp
    · exact h
  | look call =>
    rw [act]
    split
    · next hp => exact h.look hp
    · exact h
  | wake call =>
    rw [act]
    split
    · next hp => exact h.move hp rfl rfl (by simp)
    · exact h
  | ask ending => exact h.ask ending
  | push entry => refine h.withEngine ?_ ?_ ?_ <;> rw [MemoryEngine.push] <;> split <;> rfl
  | switchMode constant =>
    cases hr : c.engine.running with
    | false => refine h.withEngine ?_ ?_ ?_ <;> simp [MemoryEngine.switchMode, hr]
    | true =>
      have hm := h.mode
      refine h.withEngine ?_ ?_ ?_ <;> simp [MemoryEngine.switchMode, hr, hm]
  | setMitm on =>
    refine h.withEngine ?_ ?_ ?_ <;> simp only [MemoryEngine.setMitm] <;> split <;> rfl
  | setFailCreation fails => exact h.withEngine rfl rfl rfl
  | deleteSince index => exact h.withEngine rfl rfl rfl
  | read => exact h

theorem kept_run (h : c.Kept) (actions : List Action) : (c.run actions).Kept := by
  induction actions generalizing c with
  | nil => exact h
  | cons a actions ih => exact ih (kept_act h a)

/-- A call that is served, once it has fired readiness, is about to look, or it is asleep while
nothing was asked. -/
theorem Kept.act_fire (h : c.Kept) (ht : tenure c.history = some (call, asked)) :
    tenure (c.act (.fire call)).history = some (call, asked) ∧
      ((c.act (.fire call)).calls[call]? = some .looking ∨
        (c.act (.fire call)).calls[call]? = some .asleep ∧ asked = []) := by
  have hout : c.outcomes[call]? = some none := (h.ledger.serves_iff call).2 ⟨_, ht⟩
  obtain ⟨p, hp, hn⟩ : ∃ p, c.calls[call]? = some p ∧ p.status? = none := by
    rwa [outcomes, List.getElem?_map, Option.map_eq_some_iff] at hout
  have hlt := (List.getElem?_eq_some_iff.1 hp).1
  cases p with
  | announcing =>
    rw [act, if_pos hp]
    simp [hlt, ht]
  | looking => simp [act, hp, ht]
  | asleep => simp [act, hp, ht, h.awake call asked ht hp]
  | returned status => cases hn

/-- A call whose session was asked to end comes to its last section, and one whose session was not
does not. -/
theorem Kept.act_look (h : c.Kept) (ht : tenure c.history = some (call, asked)) :
    ((c.act (.fire call)).act (.look call)).outcomes[call]? =
      some (asked.head?.map Ending.status) := by
  obtain ⟨htd, hd⟩ := h.act_fire ht
  have hkept := kept_act h (.fire call)
  generalize c.act (.fire call) = d at htd hd hkept ⊢
  have hr := hkept.running_of_tenure htd
  have he := hkept.ending_of_tenure htd
  rcases hd with hd | ⟨hd, rfl⟩
  · have hlt := (List.getElem?_eq_some_iff.1 hd).1
    rw [act, if_pos hd]
    cases asked with
    | nil => simp [Callers.look, MemoryEngine.finish?, hr, he, outcomes, hlt, CallerPoint.status?]
    | cons ending rest =>
      simp [Callers.look, MemoryEngine.finish?, hr, he, outcomes, hlt, CallerPoint.status?]
  · simp [act, hd, outcomes, CallerPoint.status?]

/-- **The sessions of a run.** However the sections of any number of callers come, at most one
accepted start call is between its first section and its last one, and it is the one that the
tenure tells of. Its last section is possible exactly when its session was asked to end in its
tenure, and it tells of the first request there; any other request has no effect. A start call that
has returned was served in this way, or it was refused: then it never fired readiness, and it
changed nothing but the count of calls. The log is closed, the name is empty and there is no mode
exactly while no session is served. -/
theorem lifecycle_run (actions : List Action) :
    let c := idle.run actions
    (∀ i j : Nat, c.outcomes[i]? = some none → c.outcomes[j]? = some none → i = j) ∧
      (∀ i : Nat, c.outcomes[i]? = some none ↔ ∃ asked, tenure c.history = some (i, asked)) ∧
      (∀ i asked, tenure c.history = some (i, asked) →
        ((c.act (.fire i)).act (.look i)).outcomes[i]? = some (asked.head?.map Ending.status)) ∧
      (∀ i asked, Served c.history i asked → ∃ first rest, asked = first :: rest ∧
        c.outcomes[i]? = some (some (if first = .panicked then .panicked else .exited))) ∧
      (∀ (i : Nat) status, c.outcomes[i]? = some (some status) →
        (∃ asked, Served c.history i asked) ∨ .accepted i ∉ c.history ∧ .fired i ∉ c.history ∧
          (status = .alreadyRunning ∨ status = .createFailed)) ∧
      (∀ ending, (∀ i, tenure c.history ≠ some (i, [])) →
        c.act (.ask ending) = { c with history := c.history ++ [.asked ending] }) ∧
      (∀ now params, c.engine.running = true ∨ c.engine.failCreation = true →
        c.act (.start now params) = { c with
          engine := { c.engine with startCalls := c.engine.startCalls + 1 }
          calls := c.calls ++
            [.returned (if c.engine.running then .alreadyRunning else .createFailed)] }) ∧
      (c.engine.running = true ↔ ∃ i : Nat, c.outcomes[i]? = some none) ∧
      (c.engine.logLength = none ↔ c.engine.running = false) ∧
      (c.engine.nickname = "" ↔ c.engine.running = false) ∧
      (c.engine.mode = none ↔ c.engine.running = false) := by
  intro c
  have h : c.Kept := kept_run kept_idle actions
  refine ⟨fun i j hi hj => h.ledger.eq_of_serves hi hj, h.ledger.serves_iff,
    fun i asked ht => h.act_look ht, ?_, ?_, fun ending ht => h.ask_again ht ending,
    fun now params hr => start_refused hr, ?_, ?_, ?_, ?_⟩
  · intro i asked hserved
    obtain ⟨status, hfirst, hc⟩ := h.ledger.served i asked hserved
    obtain ⟨first, ha, rfl⟩ := Option.map_eq_some_iff.1 hfirst
    obtain ⟨rest, rfl⟩ := List.head?_eq_some_iff.1 ha
    refine ⟨first, rest, rfl, hc.trans ?_⟩
    cases first <;> rfl
  · intro i status hc
    rcases h.ledger.returned i status hc with hserved | ⟨hn, hst⟩
    · exact .inl hserved
    · exact .inr ⟨hn, fun hf => hn (h.ledger.fired i hf), hst⟩
  · simp only [h.ledger.serves_iff, h.running]
    rw [Option.isSome_iff_exists, Prod.exists]
  · unfold MemoryEngine.logLength
    split <;> simp_all
  · unfold MemoryEngine.nickname
    split
    · next hr =>
      have hne : "mem/" ++ c.engine.server ≠ "" := by simp
      simp [hr, hne]
    · next hr => simpa using hr
  · rw [← h.mode]
    simp

/-- A session that is asked to end before its start call waits, first by a stop and then by a crash,
with starts that come before the call looks and while creation fails, and one that crashes. -/
def askedEarly : List Action :=
  let params : StartParams := .ofProfile (.new "h:1") .log 0 ""
  [.ask .panicked, .start 1 params, .ask .stopped, .ask .panicked, .start 2 params, .fire 0, .look 0,
    .setFailCreation true, .start 3 params, .setFailCreation false, .start 4 params, .fire 3,
    .look 3, .push ⟨5, "a"⟩, .ask .panicked]

/-- The first session exits, the starts that are refused are never ready, and the second session
panics; until then a further start changes the count only. -/
theorem lifecycle_run_askedEarly :
    let c := idle.run askedEarly
    c.outcomes = [some .exited, some .alreadyRunning, some .createFailed, none] ∧
      Served c.history 0 [.stopped, .panicked] ∧ tenure c.history = some (3, [.panicked]) ∧
      .fired 1 ∉ c.history ∧ .fired 2 ∉ c.history ∧
      ((c.act (.fire 3)).act (.look 3)).outcomes[3]? = some (some .panicked) ∧
      c.act (.ask .stopped) = { c with history := c.history ++ [.asked .stopped] } ∧
      c.engine.startCalls = 4 ∧
      (∀ now params, (c.act (.start now params)).engine =
        { c.engine with startCalls := c.engine.startCalls + 1 }) ∧
      c.engine.logLength = some 2 ∧ c.engine.nickname ≠ "" ∧ c.engine.mode ≠ none := by
  intro c
  obtain ⟨-, -, hlook, -, hreturned, hagain, hrefused, hserves, -, hname, hmode⟩ :=
    lifecycle_run askedEarly
  have hs : Served c.history 0 [.stopped, .panicked] :=
    ⟨[.asked .panicked], [.asked .stopped, .asked .panicked, .fired 0], c.history.drop 6, rfl,
      by simp [Occurrence.isBetween], rfl⟩
  have ht : tenure c.history = some (3, [.panicked]) := rfl
  have hnever (i : Nat) {status : Status} (hc : c.outcomes[i]? = some (some status))
      (hn : .accepted i ∉ c.history) : .fired i ∉ c.history := by
    rcases hreturned i status hc with ⟨asked, before, during, after, hhistory, -⟩ | ⟨-, hf, -⟩
    · exact absurd (hhistory ▸ by simp) hn
    · exact hf
  have hrunning : c.engine.running = true := hserves.2 ⟨3, rfl⟩
  refine ⟨rfl, hs, ht, hnever 1 rfl (by decide), hnever 2 rfl (by decide), hlook 3 _ ht,
    hagain .stopped fun i hi => ?_, rfl, fun now params => ?_, rfl, fun h => ?_, fun h => ?_⟩
  · cases ht.symm.trans hi
  · exact congrArg Callers.engine (hrefused now params (.inl hrunning))
  · exact Bool.false_ne_true ((hname.1 h).symm.trans hrunning)
  · exact Bool.false_ne_true ((hmode.1 h).symm.trans hrunning)

end Callers

end ProxyControl
