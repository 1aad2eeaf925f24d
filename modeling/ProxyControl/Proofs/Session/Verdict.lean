import ProxyControl.Proofs.Engine.Tenure
import ProxyControl.Proofs.Session.Readiness
import ProxyControl.Proofs.Session.Reports

/-!
# How sessions end

A start call returns a status, which waits in the queue, and then with the session for its log
stream, until the session ends with it. Each session has a start call of its own, which returns
once, so the status that a session tells at its end is that of its own start call, whatever else the
queue holds; what the session makes of it depends only on whether readiness came in time. Every
start that is refused in between is told once. A session whose thread could not be created has no
start call and tells nothing.

## Main definitions

* `Scene.returned`: the statuses that start calls returned in a run, with their generations
* `Scene.refused`: the sessions of a run that starts were refused for, once for each start
* `Concluded`: the events of a session whose start call returned a status
* `Tableau.Verdicts`: what was noted in a run, and what sessions make of it

## Main results

* `Scene.reports_act`: which action reports a status
* `Tableau.Verdicts.step`: what every step keeps
* `Scene.events_run`: the events of every run fall into sessions of the right shape
* `Scene.verdict_run`: the ends of all sessions of a run
-/

set_option autoImplicit false

namespace ProxyControl

/-- The events of a session whose start call returned a status, when some starts were refused and
readiness came in time or not. -/
inductive Concluded (status : Status) (refused : Nat) : Bool → List SessionEvent → Prop
  /-- The engine was never ready. -/
  | neverReady {l : List SessionEvent} (hl : Opened .starting l) (hr : l.count busyEvent = refused) :
    Concluded status refused false (l ++ closingEvents .starting (Session.finalStatus false status))
  /-- The engine was ready. -/
  | ready {phase : Phase} {l : List SessionEvent} (hp : phase = .running ∨ phase = .stopping)
    (hl : Opened phase l) (hr : l.count busyEvent = refused) :
    Concluded status refused true
      (l ++ loggingStopped :: closingEvents phase (Session.finalStatus true status))

/-- A session that was ready has told so. -/
theorem Opened.exists_started {phase : Phase} {l : List SessionEvent} (h : Opened phase l)
    (hp : phase = .running ∨ phase = .stopping) : ∃ nickname, .started nickname ∈ l := by
  induction h with
  | stopped => simp at hp
  | starting => simp at hp
  | running nickname => exact ⟨nickname, by simp [openingEvents]⟩
  | stopping _ _ ih =>
    obtain ⟨nickname, hn⟩ := ih (.inl rfl)
    exact ⟨nickname, List.mem_append_left _ hn⟩

/-- A session that was never ready tells that it was launched, and of starts since then. -/
theorem Opened.eq_replicate {l : List SessionEvent} (h : Opened .starting l) :
    l = .changed .stopped .starting :: List.replicate (l.count busyEvent) busyEvent := by
  cases h with
  | @starting busy hb =>
    have hne : SessionEvent.changed .stopped .starting ≠ busyEvent := by decide
    have hrep := List.eq_replicate_of_mem hb
    rw [List.count_cons_of_ne hne, hrep, List.count_replicate_self]

/-- **The end of a session**, in full: a session that was ready tells that logging stopped and then
the words of what was returned, and one that was never ready those of its final status, after one
notice for each start that was refused. -/
theorem Concluded.shape {status : Status} {refused : Nat} {ready : Bool} {l : List SessionEvent}
    (h : Concluded status refused ready l) :
    (ready = true ∧ ∃ phase nickname before,
        l = before ++ loggingStopped :: closingEvents phase status ∧
          .started nickname ∈ before ∧ loggingStopped ∉ before) ∨
      ready = false ∧ (∀ nickname, .started nickname ∉ l) ∧
        l = .changed .stopped .starting :: (List.replicate refused busyEvent ++
          closingEvents .starting (Session.finalStatus false status)) := by
  cases h with
  | @neverReady l hl hr =>
    have heq := hl.eq_replicate
    rw [hr] at heq
    rw [heq]
    refine .inr ⟨rfl, fun nickname hn => ?_, rfl⟩
    simp [closingEvents, statusNotices, busyEvent] at hn
  | @ready phase l hp hl hr =>
    obtain ⟨nickname, hn⟩ := hl.exists_started hp
    exact .inl ⟨rfl, phase, nickname, l, rfl, hn, hl.loggingStopped_notMem⟩

/-- What a session has told, by what was noted of its generation: its start call returned a status,
or its thread could not be created. -/
def Told (failure : Prop) (returned : List (Nat × Status)) (refused readied : List Nat)
    (generation : Nat) (l : List SessionEvent) : Prop :=
  (∃ status, (generation, status) ∈ returned ∧
      Concluded status (refused.count generation) (decide (generation ∈ readied)) l) ∨
    failure ∧ l = abortedEvents ∧ ∀ status, (generation, status) ∉ returned

/-- What is noted of other generations does not matter. -/
theorem Told.append {failure : Prop} {returned : List (Nat × Status)} {refused readied : List Nat}
    {generation : Nat} {l : List SessionEvent}
    (h : Told failure returned refused readied generation l) {returned' : List (Nat × Status)}
    {refused' readied' : List Nat} (hreturned : ∀ status, (generation, status) ∉ returned')
    (hrefused : generation ∉ refused') (hreadied : generation ∉ readied') :
    Told failure (returned ++ returned') (refused ++ refused') (readied ++ readied')
      generation l := by
  rcases h with ⟨status, hs, hcon⟩ | ⟨hf, hl, hn⟩
  · refine .inl ⟨status, List.mem_append_left _ hs, ?_⟩
    simpa [List.count_append, List.count_eq_zero_of_not_mem hrefused, hreadied] using hcon
  · refine .inr ⟨hf, hl, fun status hs => ?_⟩
    rcases List.mem_append.1 hs with hs | hs
    · exact hn status hs
    · exact hreturned status hs

namespace Tableau

/-- The session under way is going to end with a status: its return is in the queue, or the log
stream is waited for with it. -/
def Awaits (t : Tableau) (status : Status) : Prop :=
  .exited t.generation status ∈ t.traffic ∨ t.stage = .draining status

/-- What start calls returned, which starts were refused and which readiness was fired in time, and
what the sessions make of it. -/
structure Verdicts (failure : Prop) (t : Tableau) (returned : List (Nat × Status))
    (refused readied : List Nat) (sessions : List (List SessionEvent))
    (last : List SessionEvent) : Prop where
  /-- A start call returns once. -/
  once : ∀ g s s', (g, s) ∈ returned → (g, s') ∈ returned → s = s'
  calling : ∀ g ∈ t.calls, ∀ s, (g, s) ∉ returned
  numbered : ∀ g s, (g, s) ∈ returned → 0 < g
  known : ∀ g s, (g, s) ∈ returned → g ≤ t.generation
  /-- What is waited for was returned. -/
  awaited : ∀ s, t.Awaits s → (t.generation, s) ∈ returned
  /-- What was returned is told, or waited for. -/
  kept : ∀ g s, (g, s) ∈ returned → g ≤ sessions.length ∨ g = t.generation ∧ t.Awaits s
  refusable : ∀ g ∈ refused, g ≤ t.generation
  /-- The session under way has told of the starts that were refused for it. -/
  busy : t.phase ≠ .stopped → last.count busyEvent = refused.count t.generation
  told : ∀ i l, sessions[i]? = some l → Told failure returned refused readied (i + 1) l

variable {failure : Prop} {t u : Tableau} {returned : List (Nat × Status)}
  {refused readied : List Nat} {sessions : List (List SessionEvent)} {last : List SessionEvent}
  {seen pending : List LogRecord}

/-- While there is no session, nothing is to be taken. -/
theorem Standing.idle (h : t.Standing pending) (hp : t.phase = .stopped) :
    t.stage = .receiving ∧ t.traffic = [] := by
  cases h with
  | stopped _ stage _ _ traffic => exact ⟨stage, traffic⟩
  | starting phase => cases hp.symm.trans phase
  | serving phase => simp [hp] at phase
  | ending _ phase => simp [hp] at phase

theorem not_awaits (hs : t.stage = .receiving) (ht : t.traffic = []) (status : Status) :
    ¬t.Awaits status := by
  simp [Awaits, hs, ht]

namespace Verdicts

/-- The session under way goes on, and tells of no refused start. -/
theorem goOn {extra : List SessionEvent}
    (h : t.Verdicts failure returned refused readied sessions last) (hp : t.phase ≠ .stopped)
    (hg : u.generation = t.generation) (hc : u.calls = t.calls)
    (ha : ∀ s, u.Awaits s ↔ t.Awaits s) (he : extra.count busyEvent = 0) :
    u.Verdicts failure returned refused readied sessions (last ++ extra) where
  once := h.once
  calling := by
    rw [hc]
    exact h.calling
  numbered := h.numbered
  known := by
    rw [hg]
    exact h.known
  awaited s hs := by
    rw [hg]
    exact h.awaited s ((ha s).1 hs)
  kept g s hm := by
    rw [hg, ha]
    exact h.kept g s hm
  refusable := by
    rw [hg]
    exact h.refusable
  busy _ := by rw [List.count_append, he, hg, h.busy hp, Nat.add_zero]
  told := h.told

/-- A start is refused, and told of. -/
theorem refuse (h : t.Verdicts failure returned refused readied sessions last)
    (hp : t.phase ≠ .stopped) (hg : sessions.length < t.generation) (hu : u.generation = t.generation)
    (hc : u.calls = t.calls) (ha : ∀ s, u.Awaits s ↔ t.Awaits s) :
    u.Verdicts failure returned (refused ++ [t.generation]) readied sessions
      (last ++ [busyEvent]) where
  once := h.once
  calling := by
    rw [hc]
    exact h.calling
  numbered := h.numbered
  known := by
    rw [hu]
    exact h.known
  awaited s hs := by
    rw [hu]
    exact h.awaited s ((ha s).1 hs)
  kept g s hm := by
    rw [hu, ha]
    exact h.kept g s hm
  refusable g hm := by
    rw [hu]
    rcases List.mem_append.1 hm with hm | hm
    · exact h.refusable g hm
    · exact Nat.le_of_eq (List.mem_singleton.1 hm)
  busy _ := by simp [List.count_append, hu, h.busy hp]
  told i l hl := by
    have hlt := (List.getElem?_eq_some_iff.1 hl).1
    have hne : i + 1 ≠ t.generation := by omega
    have hfar : i + 1 ∉ [t.generation] := List.mem_singleton.not.2 hne
    have hl' := (h.told i l hl).append (fun s => List.not_mem_nil) hfar List.not_mem_nil
    rwa [List.append_nil, List.append_nil] at hl'

/-- Readiness of the session under way is fired in time. -/
theorem herald (h : t.Verdicts failure returned refused readied sessions last) {g : Nat}
    (hg : sessions.length < g) :
    t.Verdicts failure returned refused (readied ++ [g]) sessions last where
  once := h.once
  calling := h.calling
  numbered := h.numbered
  known := h.known
  awaited := h.awaited
  kept := h.kept
  refusable := h.refusable
  busy := h.busy
  told i l hl := by
    have hlt := (List.getElem?_eq_some_iff.1 hl).1
    have hne : i + 1 ≠ g := by omega
    have hfar : i + 1 ∉ [g] := List.mem_singleton.not.2 hne
    have hl' := (h.told i l hl).append (fun s => List.not_mem_nil) List.not_mem_nil hfar
    rwa [List.append_nil, List.append_nil] at hl'

/-- The start call of the session under way returns. -/
theorem giveBack (h : t.Verdicts failure returned refused readied sessions last)
    (hc : t.calls = [t.generation]) (hg : sessions.length < t.generation) (status : Status) :
    Verdicts failure { t with
      calls := t.calls.erase t.generation
      traffic := t.traffic ++ [.exited t.generation status] }
      (returned ++ [(t.generation, status)]) refused readied sessions last := by
  -- until now the call was in flight, so it has not returned before
  have hnew (s : Status) : (t.generation, s) ∉ returned :=
    h.calling t.generation (by simp [hc]) s
  have hmem (g : Nat) (s : Status) : (g, s) ∈ returned ++ [(t.generation, status)] ↔
      (g, s) ∈ returned ∨ g = t.generation ∧ s = status := by
    rw [List.mem_append, List.mem_singleton, Prod.mk.injEq]
  have hawaits (s : Status) : Awaits { t with
      calls := t.calls.erase t.generation
      traffic := t.traffic ++ [.exited t.generation status] } s ↔ t.Awaits s ∨ s = status := by
    simp only [Awaits, List.mem_append, List.mem_singleton, Message.exited.injEq, true_and]
    tauto
  constructor
  case once =>
    intro g s s' hs hs'
    rcases (hmem g s).1 hs with hs | ⟨rfl, rfl⟩
    · rcases (hmem g s').1 hs' with hs' | ⟨rfl, -⟩
      · exact h.once g s s' hs hs'
      · exact absurd hs (hnew s)
    · rcases (hmem _ s').1 hs' with hs' | ⟨-, heq⟩
      · exact absurd hs' (hnew s')
      · exact heq.symm
  case calling => simp [hc]
  case numbered =>
    intro g s hs
    rcases (hmem g s).1 hs with hs | ⟨rfl, rfl⟩
    · exact h.numbered g s hs
    · exact Nat.zero_lt_of_lt hg
  case known =>
    intro g s hs
    rcases (hmem g s).1 hs with hs | ⟨rfl, rfl⟩
    · exact h.known g s hs
    · exact Nat.le_refl _
  case awaited =>
    intro s hs
    exact (hmem _ s).2 (((hawaits s).1 hs).imp (h.awaited s) fun heq => ⟨rfl, heq⟩)
  case kept =>
    intro g s hs
    rw [hawaits]
    rcases (hmem g s).1 hs with hs | ⟨rfl, rfl⟩
    · exact (h.kept g s hs).imp_right (.imp_right .inl)
    · exact .inr ⟨rfl, .inr rfl⟩
  case refusable => exact h.refusable
  case busy => exact h.busy
  case told =>
    intro i l hl
    have hlt := (List.getElem?_eq_some_iff.1 hl).1
    have hne : i + 1 ≠ t.generation := by omega
    have hfar (s : Status) : (i + 1, s) ∉ [(t.generation, status)] := by simp [hne]
    have hl' := (h.told i l hl).append hfar List.not_mem_nil List.not_mem_nil
    rwa [List.append_nil, List.append_nil] at hl'

/-- A new session, of which nothing is known. -/
theorem launch (h : t.Verdicts failure returned refused readied sessions last)
    (hn : ∀ s, ¬t.Awaits s) (hg : u.generation = t.generation + 1)
    (hc : u.calls = t.calls ++ [t.generation + 1]) (ha : ∀ s, ¬u.Awaits s) :
    u.Verdicts failure returned refused readied sessions [.changed .stopped .starting] where
  once := h.once
  calling g hm s hs := by
    rw [hc] at hm
    rcases List.mem_append.1 hm with hm | hm
    · exact h.calling g hm s hs
    · obtain rfl := List.mem_singleton.1 hm
      have hle := h.known _ s hs
      omega
  numbered := h.numbered
  known g s hs := by
    rw [hg]
    exact Nat.le_succ_of_le (h.known g s hs)
  awaited s hs := absurd hs (ha s)
  kept g s hs := by
    rcases h.kept g s hs with hle | ⟨-, hs⟩
    · exact .inl hle
    · exact absurd hs (hn s)
  refusable g hm := by
    rw [hg]
    exact Nat.le_succ_of_le (h.refusable g hm)
  busy _ := by
    have hfresh : t.generation + 1 ∉ refused := fun hm =>
      Nat.not_succ_le_self _ (h.refusable _ hm)
    rw [hg, List.count_eq_zero_of_not_mem hfresh]
    rfl
  told := h.told

/-- A session that has ended, with the status that was waited for or without a start call. -/
theorem ended {l : List SessionEvent}
    (h : t.Verdicts failure returned refused readied sessions last) (hp : u.phase = .stopped)
    (hc : u.calls = t.calls) (hg : u.generation = sessions.length + 1)
    (hle : t.generation ≤ u.generation) (ha : ∀ s, ¬u.Awaits s)
    (hl : Told failure returned refused readied u.generation l) :
    u.Verdicts failure returned refused readied (sessions ++ [l]) [] where
  once := h.once
  calling := by
    rw [hc]
    exact h.calling
  numbered := h.numbered
  known g s hs := Nat.le_trans (h.known g s hs) hle
  awaited s hs := absurd hs (ha s)
  kept g s hs := by
    have hknown := h.known g s hs
    refine .inl ?_
    rw [List.length_append, List.length_singleton]
    omega
  refusable g hm := Nat.le_trans (h.refusable g hm) hle
  busy hn := absurd hp hn
  told i k hk := by
    rcases getElem?_concat_eq_some_iff.1 hk with hk | ⟨rfl, rfl⟩
    · exact h.told i k hk
    · rwa [hg] at hl

end Verdicts

/-- **What every step keeps.** Where the session ends, its final status is that of the status that it
was waiting for, and it knows whether readiness came in time. -/
theorem Verdicts.step (h : t.Verdicts failure returned refused readied sessions last)
    (hc : t.Chronicle failure sessions last seen pending) {note : Note}
    (hs : t.Step failure note u) {ready : Bool}
    (hunready : t.phase = .starting → ready = false)
    (hready : t.phase = .running ∨ t.phase = .stopping → ready = true)
    (hlate : t.phase = .starting → u.phase = .stopped → t.generation ∉ readied)
    (htimely : t.phase = .running ∨ t.phase = .stopping → t.generation ∈ readied)
    (hfinal : ∀ final, endedOf u.events = endedOf t.events ++ [final] →
      ∃ status, t.Awaits status ∧ final = Session.finalStatus ready status) :
    ∃ sessions last seen pending, u.Chronicle failure sessions last seen pending ∧
      u.Verdicts failure (returned ++ note.returned.toList) (refused ++ note.refused.toList) readied
        sessions last := by
  have hnone {v : Tableau} {sessions last}
      (hv : v.Verdicts failure returned refused readied sessions last) :
      v.Verdicts failure (returned ++ Note.none.returned.toList)
        (refused ++ Note.none.refused.toList) readied sessions last := by
    simpa [Note.none] using hv
  cases hs with
  | stay => exact ⟨_, _, _, _, hc, hnone h⟩
  | launch hp =>
    obtain ⟨hstage, ht⟩ := hc.standing.idle hp
    refine ⟨_, _, _, _, hc.launch hp, hnone ?_⟩
    exact h.launch (not_awaits hstage ht) rfl rfl (not_awaits hstage ht)
  | abort hf hp =>
    obtain ⟨hstage, ht⟩ := hc.standing.idle hp
    refine ⟨_, _, _, _, hc.abort hf hp, hnone ?_⟩
    refine h.ended hp ?_ ?_ ?_ ?_ (.inr ⟨hf, ?_, ?_⟩)
    · rfl
    · exact congrArg (· + 1) (hc.generation_eq_of_stopped hp)
    · exact Nat.le_succ _
    · exact not_awaits hstage ht
    · rfl
    · exact fun s hs => Nat.not_succ_le_self _ (h.known _ s hs)
  | busy hp =>
    have hlt := hc.length_lt_generation hp
    refine ⟨_, _, _, _, hc.busy hp, ?_⟩
    rw [Option.toList_none, List.append_nil]
    exact h.refuse hp hlt rfl rfl fun _ => .rfl
  | stop hp =>
    refine ⟨_, _, _, _, hc.stop hp, hnone ?_⟩
    exact h.goOn (by simp [hp]) rfl rfl (fun _ => .rfl) rfl
  | ready nickname hp =>
    refine ⟨_, _, _, _, hc.ready nickname hp, hnone ?_⟩
    refine h.goOn (by simp [hp]) rfl rfl (fun _ => .rfl) ?_
    exact count_busyEvent_openingEvents nickname
  | @record r rest ht =>
    obtain ⟨more, hm⟩ := hc.record ht
    obtain ⟨hp, -⟩ := hc.standing.record ht
    have hne := Phase.ne_stopped_of_serving hp
    refine ⟨_, _, _, _, hm, hnone ?_⟩
    refine h.goOn hne rfl rfl (fun s => ?_) ?_
    · simp [Awaits, tell, ht]
    · exact count_busyEvent_recordEvents r
  | @stale m rest ht hm =>
    have hmem : m ∈ t.traffic := by rw [ht]; exact List.mem_cons_self
    exact absurd (hc.standing.generation_of_mem hmem) hm
  | close ht hst hh =>
    obtain ⟨hp, hstand⟩ := hc.standing.close ht hh
    refine ⟨_, _, _, _, hc.silent hstand hp rfl rfl rfl rfl, hnone ?_⟩
    refine h.goOn hp rfl rfl (fun s => ?_) List.count_nil
    simp only [Awaits, ht, hst, List.mem_cons, Message.exited.injEq, Stage.draining.injEq, true_and,
      reduceCtorEq, or_false]
    tauto
  | @finish _ rest final ht hh =>
    obtain ⟨hp, rfl, hstand⟩ := hc.standing.finish ht hh
    obtain ⟨hstage, hrest⟩ := hstand.idle rfl
    obtain ⟨status, hstatus, rfl⟩ := hfinal final (by simp [tell, closingEvents])
    have hne : t.phase ≠ .stopped := by simp [hp]
    have hopened := hc.opened
    rw [hp] at hopened
    have hcon : Concluded status (refused.count t.generation) (decide (t.generation ∈ readied))
        (last ++ closingEvents t.phase (Session.finalStatus ready status)) := by
      rw [hunready hp, hp, decide_eq_false (hlate hp rfl)]
      exact .neverReady hopened (h.busy hne)
    refine ⟨_, _, _, _, hc.finish _ ht hh, hnone ?_⟩
    refine h.ended ?_ ?_ ?_ ?_ ?_ (.inl ?_)
    · rfl
    · rfl
    · exact hc.generation_eq hne
    · exact Nat.le_refl _
    · exact not_awaits hstage hrest
    · exact ⟨status, h.awaited status hstatus, hcon⟩
  | conclude final hst ht hj =>
    obtain ⟨hp, rfl, hstand⟩ := hc.standing.conclude hst ht hj
    have hne := Phase.ne_stopped_of_serving hp
    obtain ⟨status, hstatus, rfl⟩ := hfinal final (by simp [tell, closingEvents])
    have hcon : Concluded status (refused.count t.generation) (decide (t.generation ∈ readied))
        (last ++ loggingStopped :: closingEvents t.phase (Session.finalStatus ready status)) := by
      rw [hready hp, decide_eq_true (htimely hp)]
      exact .ready hp hc.opened (h.busy hne)
    refine ⟨_, _, _, _, hc.conclude _ hst ht hj, hnone ?_⟩
    refine h.ended ?_ ?_ ?_ ?_ ?_ (.inl ?_)
    · rfl
    · rfl
    · exact hc.generation_eq hne
    · exact Nat.le_refl _
    · exact not_awaits rfl ht
    · exact ⟨status, h.awaited status hstatus, hcon⟩
  | @giveBack g status hm =>
    obtain ⟨hp, hcalls⟩ := hc.standing.calls_cases.resolve_left (List.ne_nil_of_mem hm)
    obtain rfl : g = t.generation := by rwa [hcalls, List.mem_singleton] at hm
    obtain ⟨-, hstand⟩ := hc.standing.giveBack status hm
    have hlt := hc.length_lt_generation hp
    refine ⟨sessions, last ++ [], seen ++ [], pending, ?_, ?_⟩
    · exact hc.silent hstand hp rfl rfl rfl rfl
    · simpa using h.giveBack hcalls hlt status
  | @advance index r answers hr =>
    cases he : r.point.isEnded with
    | true =>
      refine ⟨sessions, last, seen, pending, ?_⟩
      have ht := advanced_of_isEnded answers hr he
      rw [advanced] at ht
      rw [ht]
      exact ⟨hc, hnone h⟩
    | false =>
      obtain ⟨hp, -⟩ := hc.standing.runs hr he
      have hne := Phase.ne_stopped_of_serving hp
      have hgo : Verdicts failure (t.advanced index r answers) returned refused readied sessions
          (last ++ []) := by
        refine h.goOn hne ?_ ?_ (fun s => ?_) List.count_nil <;> simp [Awaits, advanced]
      rw [List.append_nil] at hgo
      exact ⟨_, _, _, _, hc.advance answers hr he, hnone hgo⟩

end Tableau

namespace Scene

variable {W : Type} {c d : Scene W}

/-! ## Statuses that are reported -/

/-- The statuses `l` are told on the way to a later scene, and the last one is kept. -/
structure Reports (c d : Scene W) (l : List Status) : Prop where
  told : endedOf d.events = endedOf c.events ++ l
  kept : d.session.lastStatus = l.getLast?.or c.session.lastStatus

theorem Reports.refl (c : Scene W) : c.Reports c [] := ⟨(List.append_nil _).symm, rfl⟩

theorem Reports.of_session {l : List Status} (h : c.session.Reports d.session l)
    (hd : d.history = c.history) : c.Reports d l where
  told := by rw [events, events, endedOf_append, endedOf_append, hd, h.told, List.append_assoc]
  kept := h.kept

/-- Requests that are carried out tell nothing. -/
theorem Reports.settle {l : List Status} (h : c.session.Reports d.session l)
    (hd : d.history = c.history) : c.Reports d.settle l := by
  have hs : c.session.Reports d.settle.session l := by
    rw [session_settle]
    exact ⟨h.told, h.kept, h.rest⟩
  exact .of_session hs ((history_foldl_perform _ _).trans hd)

/-- A call that goes on tells of one status at most: that which is waited for. -/
theorem reports_proceed (name : String) {errand : Errand} {stage : Stage}
    (hp : c.point = .busy errand stage) :
    ∃ l, c.Reports (c.proceed name errand stage) l ∧ ∀ final ∈ l, ∃ status,
      c.tableau.Awaits status ∧ final = Session.finalStatus c.session.readySeen status := by
  unfold proceed
  split
  · refine ⟨[], ?_, by simp⟩
    cases errand with
    | polling => exact ⟨by simp [events, withSession, session], rfl⟩
    | waiting target =>
      dsimp only
      split <;> exact ⟨(List.append_nil _).symm, rfl⟩
  · split
    · exact ⟨[], .refl c, by simp⟩
    · rcases c.session.reports_takeNext name stage with ⟨status, hs, h⟩ | h
      · refine ⟨[_], .settle h rfl, fun final hf => ⟨status, ?_, List.mem_singleton.1 hf⟩⟩
        rcases hs with rfl | hs
        · exact .inr (congrArg ControlPoint.stage hp)
        · exact .inl (List.mem_filter.2 ⟨hs, rfl⟩)
      · exact ⟨[], .settle h rfl, by simp⟩

/-- **Which actions report a status**: those that end the session with the one that is waited
for. -/
theorem reports_act (c : Scene W) (a : Action) :
    ∃ l, c.Reports (c.act a) l ∧ ∀ final ∈ l, ∃ status,
      c.tableau.Awaits status ∧ final = Session.finalStatus c.session.readySeen status := by
  have hnone {d : Scene W} (h : c.Reports d []) : ∃ l, c.Reports d l ∧ ∀ final ∈ l, ∃ status,
      c.tableau.Awaits status ∧ final = Session.finalStatus c.session.readySeen status :=
    ⟨[], h, by simp⟩
  cases a with
  | start profile mode threadError =>
    refine hnone ?_
    rw [act]
    split
    · exact .settle (c.controller.reports_start profile mode threadError c.world) rfl
    · exact .refl c
  | stop =>
    refine hnone ?_
    rw [act]
    split
    · exact .settle c.session.reports_stop rfl
    · exact .refl c
  | switchMode mode =>
    refine hnone ?_
    rw [act]
    split
    · exact .settle (c.session.reports_switchMode mode) rfl
    · exact .refl c
  | setMitm on =>
    refine hnone ?_
    rw [act]
    split
    · exact .settle (c.session.reports_setMitm on) rfl
    · exact .refl c
  | call errand =>
    refine hnone ?_
    rw [act]
    split <;> exact ⟨(List.append_nil _).symm, rfl⟩
  | proceed name =>
    rw [act]
    split
    · exact hnone (.refl c)
    · next errand stage hp => exact reports_proceed name hp
  | timeOut =>
    refine hnone ?_
    rw [act]
    split <;> exact ⟨(List.append_nil _).symm, rfl⟩
  | fire generation =>
    refine hnone ?_
    rw [act]
    split <;> exact ⟨(List.append_nil _).symm, rfl⟩
  | giveBack generation status =>
    refine hnone ?_
    rw [act]
    split <;> exact ⟨(List.append_nil _).symm, rfl⟩
  | advance index answers =>
    refine hnone ?_
    rw [act]
    split
    · exact .refl c
    · refine .of_session (.of_eq ?_ ?_ ?_) rfl <;>
        simp only [withSession, session, foldl_enqueue_eq]
      exact id

/-! ## Runs -/

/-- What start calls return in a list of actions, by their generations. -/
def returned (c : Scene W) (actions : List Action) : List (Nat × Status) := noted return? c actions

/-- The generations of the sessions that starts are refused for in a list of actions, once for each
start. -/
def refused (c : Scene W) (actions : List Action) : List Nat := noted refusal? c actions

/-- What holds of a scene after every run of which the given things were noted. -/
structure Judged (failure : Prop) (c : Scene W) (returned : List (Nat × Status))
    (refused readied : List Nat) : Prop where
  orderly : c.Orderly
  heralds : c.Heralds readied
  verdicts : ∃ sessions last seen pending,
    c.tableau.Chronicle failure sessions last seen pending ∧
      c.tableau.Verdicts failure returned refused readied sessions last
  /-- The session keeps the status that was told last. -/
  latest : c.session.lastStatus = (endedOf c.events).getLast?

theorem Judged.idle (failure : Prop) (store : ProfileStore W) (options : SessionOptions) (w : W) :
    (Scene.idle store options w).Judged failure [] [] [] where
  orderly := .idle store options w
  heralds := .idle store options w
  verdicts := by
    refine ⟨_, _, _, _, chronicle_idle failure store options w, ?_⟩
    constructor <;> simp [Tableau.Awaits, Scene.idle, tableau, tableauOf, Session.idle, session,
      Controller.idle, ControlPoint.stage]
  latest := rfl

/-- Readiness that is fired in time is that of the session under way. -/
theorem Orderly.of_ready? (h : c.Orderly) {a : Action} {g : Nat} (ha : c.ready? a = some g) :
    (c.act a).tableau = c.tableau ∧ c.session.phase ≠ .stopped ∧ g = c.session.generation := by
  cases a with
  | fire generation =>
    rw [ready?] at ha
    split at ha
    · next hc =>
      obtain rfl := Option.some.inj ha
      refine ⟨?_, ?_, h.eq_of_mem_calls hc⟩
      · rw [Scene.act]
        split
        · exact tableau_enqueue_ready c generation
        · rfl
      · exact (h.calls_cases.resolve_left (List.ne_nil_of_mem hc)).1
    · cases ha
  | _ => cases ha

/-- **Every action keeps the verdicts.** -/
theorem Judged.act {failure : Prop} {returned : List (Nat × Status)} {refused readied : List Nat}
    (h : c.Judged failure returned refused readied) (a : Action) (hf : a.Fails → failure) :
    (c.act a).Judged failure (returned ++ (c.return? a).toList)
      (refused ++ (c.refusal? a).toList) (readied ++ (c.ready? a).toList) := by
  obtain ⟨sessions, last, seen, pending, hc, hv⟩ := h.verdicts
  obtain ⟨l, hl, hfinal⟩ := c.reports_act a
  refine ⟨h.orderly.act a, h.heralds.act h.orderly a, ?_, ?_⟩
  · obtain ⟨sessions, last, seen, pending, hc', hv'⟩ :=
      hv.step hc (act_step h.orderly.requests a hf) h.orderly.holdings.unready
        h.orderly.holdings.ready (h.heralds.unready_act h.orderly) h.heralds.session.serving
        fun final hf => by
          have hlist : l = [final] := List.append_cancel_left (hl.told.symm.trans hf)
          exact hfinal final (by simp [hlist])
    refine ⟨sessions, last, seen, pending, hc', ?_⟩
    cases hr : c.ready? a with
    | none =>
      rw [Option.toList_none, List.append_nil]
      exact hv'
    | some g =>
      obtain ⟨htableau, hp, rfl⟩ := h.orderly.of_ready? hr
      have hphase : c.tableau.phase ≠ .stopped := hp
      rw [htableau] at hc'
      exact hv'.herald (hc'.length_lt_generation hphase)
  · rw [hl.kept, hl.told, List.getLast?_append, h.latest]

theorem Judged.run {failure : Prop} {returned : List (Nat × Status)} {refused readied : List Nat}
    (h : c.Judged failure returned refused readied) (actions : List Action)
    (hf : ∀ a ∈ actions, a.Fails → failure) :
    (c.run actions).Judged failure (returned ++ c.returned actions)
      (refused ++ c.refused actions) (readied ++ c.readied actions) := by
  induction actions generalizing c returned refused readied with
  | nil => simpa [Scene.returned, Scene.refused, Scene.readied, noted, Scene.run] using h
  | cons a actions ih =>
    have hrest := ih (h.act a (hf a List.mem_cons_self)) fun b hb =>
      hf b (List.mem_cons_of_mem a hb)
    simp only [List.append_assoc] at hrest
    exact hrest

/-- **The events of a run.** If every thread can be created, then the events of every run, in their
order, are those of sessions that have ended and of one that may be under way, in the order of their
start calls. A session that has ended was told as one that was ready if its readiness was fired
before its start call returned, and else as one that was never ready. One that is under way is told
to be serving only if its readiness was fired, and else that readiness is still in the queue. -/
theorem events_run (store : ProfileStore W) (options : SessionOptions) (w : W)
    (actions : List Action) (hf : ∀ a ∈ actions, ¬a.Fails) :
    let c := (idle store options w).run actions
    let returned := (idle store options w).returned actions
    let refused := (idle store options w).refused actions
    let readied := (idle store options w).readied actions
    ∃ (sessions : List (List SessionEvent)) (last : List SessionEvent),
      c.events = sessions.flatten ++ last ∧
      c.session.generation = sessions.length + (if c.session.phase = .stopped then 0 else 1) ∧
      (∀ i l, sessions[i]? = some l → ∃ status before, (i + 1, status) ∈ returned ∧
        before.count busyEvent = refused.count (i + 1) ∧
        ((i + 1 ∈ readied ∧ ∃ phase, (phase = .running ∨ phase = .stopping) ∧
            Opened phase before ∧ l = before ++
              loggingStopped :: closingEvents phase (Session.finalStatus true status)) ∨
          (i + 1 ∉ readied ∧ Opened .starting before ∧
            l = before ++ closingEvents .starting (Session.finalStatus false status)))) ∧
      Opened c.session.phase last ∧
      (c.session.phase = .running ∨ c.session.phase = .stopping →
        c.session.generation ∈ readied) ∧
      (c.session.phase = .starting → c.session.generation ∈ readied →
        .ready c.session.generation ∈ c.session.queue) := by
  intro c returned refused readied
  have hj : c.Judged False returned refused readied :=
    (Judged.idle False store options w).run actions hf
  obtain ⟨sessions, last, seen, pending, hc, hv⟩ := hj.verdicts
  refine ⟨sessions, last, hc.events, hc.count, fun i l hl => ?_, hc.opened,
    hj.heralds.session.serving, fun hp hr => ((hj.heralds.session.starting hp).1 hr).mem⟩
  rcases hv.told i l hl with ⟨status, hs, hcon⟩ | ⟨hfails, -⟩
  · by_cases hr : i + 1 ∈ readied
    · rw [decide_eq_true hr] at hcon
      cases hcon with
      | @ready phase before hp ho hb =>
        exact ⟨status, before, hs, hb, .inl ⟨hr, phase, hp, ho, rfl⟩⟩
    · rw [decide_eq_false hr] at hcon
      cases hcon with
      | @neverReady before ho hb => exact ⟨status, before, hs, hb, .inr ⟨hr, ho, rfl⟩⟩
  · exact hfails.elim

/-- A session whose engine is ready and hands on a record, and one in which a start is refused and
readiness is fired only after the start call has returned. -/
theorem events_run_exit :
    let store : ProfileStore Unit := .ofBackend ⟨"", fun w => (.ok [], w), fun _ w => (.ok (), w)⟩
    let profile : Profile := { Profile.new "h:1" with key := "k" }
    let answers : StreamAnswers := ⟨some 1, ⟨1, "a"⟩, 0⟩
    let actions : List Action :=
      [.start profile none none, .fire 1, .call .polling, .proceed "n", .advance 0 answers,
        .giveBack 1 .exited, .proceed "n", .advance 0 answers, .advance 0 answers,
        .advance 0 answers, .advance 0 answers, .advance 0 answers, .advance 0 answers,
        .proceed "n", .proceed "n", .proceed "n", .start profile none none,
        .start profile none none, .giveBack 2 .createFailed, .fire 2, .call .polling,
        .proceed "n", .proceed "n", .proceed "n"]
    let c := (idle store ⟨.log, 0, "", 1⟩ ()).run actions
    (∀ a ∈ actions, ¬a.Fails) ∧
      (idle store ⟨.log, 0, "", 1⟩ ()).readied actions = [1] ∧
      c.events = [.changed .stopped .starting, .changed .starting .running,
        .line (.notice "proxy started: n"), .started "n", .line (.engine (some ⟨1⟩) "a"),
        .line (.notice "logging stopped"), .line (.notice "proxy exited"),
        .changed .running .stopped, .ended .exited, .changed .stopped .starting,
        .line (.notice "proxy already started"), .line (.notice "proxy cannot be created"),
        .changed .starting .stopped, .ended .createFailed] ∧
      ∃ phase before before', (phase = .running ∨ phase = .stopping) ∧ Opened phase before ∧
        before.count busyEvent = 0 ∧ Opened .starting before' ∧ before'.count busyEvent = 1 ∧
        c.events = before ++ loggingStopped :: closingEvents phase .exited ++
          (before' ++ closingEvents .starting .createFailed) := by
  intro store profile answers actions c
  have hf : ∀ a ∈ actions, ¬a.Fails := by simp [actions, Action.Fails]
  have hready : (idle store ⟨.log, 0, "", 1⟩ ()).readied actions = [1] := by decide +kernel
  have hreturned : (idle store ⟨.log, 0, "", 1⟩ ()).returned actions =
      [(1, .exited), (2, .createFailed)] := by decide +kernel
  have hrefused : (idle store ⟨.log, 0, "", 1⟩ ()).refused actions = [2] := by decide +kernel
  have hphase : c.session.phase = .stopped := by decide +kernel
  have hgeneration : c.session.generation = 2 := by decide +kernel
  refine ⟨hf, hready, by decide +kernel, ?_⟩
  obtain ⟨sessions, last, hevents, hlength, hsessions, hopened, -, -⟩ :=
    events_run store ⟨.log, 0, "", 1⟩ () actions hf
  change c.events = _ at hevents
  change c.session.generation = _ + (if c.session.phase = .stopped then 0 else 1) at hlength
  change Opened c.session.phase last at hopened
  rw [hready, hreturned, hrefused] at hsessions
  rw [hphase] at hopened hlength
  rw [hgeneration] at hlength
  clear_value c
  obtain ⟨a, b, rfl⟩ := List.length_eq_two.1 hlength.symm
  cases hopened
  obtain ⟨status, before, hs, hbusy, ⟨-, phase, hp, ho, rfl⟩ | ⟨hn, -⟩⟩ := hsessions 0 a rfl
  · obtain ⟨status', before', hs', hbusy', ⟨hr, -⟩ | ⟨-, ho', rfl⟩⟩ := hsessions 1 b rfl
    · simp at hr
    · obtain rfl : status = .exited := by simpa using hs
      obtain rfl : status' = .createFailed := by simpa using hs'
      have hexited : Session.finalStatus true .exited = .exited := rfl
      have hfailed : Session.finalStatus false .createFailed = .createFailed := rfl
      rw [hexited, hfailed] at hevents
      refine ⟨phase, before, before', hp, ho, hbusy, ho', hbusy', ?_⟩
      simpa using hevents
  · simp at hn

/-- **The ends of sessions.** In every run, what a start call returned is told by the session of that
call, as its readiness was fired before that or not and with one notice for each start that was
refused for it, or that session is still under way. A session that has ended without a start call
has told nothing, and the session keeps the status that was told last. -/
theorem verdict_run (store : ProfileStore W) (options : SessionOptions) (w : W)
    (actions : List Action) :
    let c := (idle store options w).run actions
    let returned := (idle store options w).returned actions
    let refused := (idle store options w).refused actions
    let readied := (idle store options w).readied actions
    ∃ (sessions : List (List SessionEvent)) (last : List SessionEvent),
      c.events = sessions.flatten ++ last ∧ Opened c.session.phase last ∧
      (∀ generation status, (generation, status) ∈ returned →
        (∃ i l, generation = i + 1 ∧ sessions[i]? = some l ∧
            Concluded status (refused.count generation) (decide (generation ∈ readied)) l) ∨
          generation = sessions.length + 1 ∧ c.session.phase ≠ .stopped) ∧
      (∀ i l, sessions[i]? = some l →
        (∃ status, (i + 1, status) ∈ returned) ∨ l = abortedEvents) ∧
      c.session.lastStatus = (endedOf c.events).getLast? := by
  intro c returned refused readied
  have hj : c.Judged True returned refused readied :=
    (Judged.idle True store options w).run actions fun _ _ _ => trivial
  obtain ⟨sessions, last, seen, pending, hc, hv⟩ := hj.verdicts
  refine ⟨sessions, last, hc.events, hc.opened, fun generation status hs => ?_, fun i l hl => ?_,
    hj.latest⟩
  · rcases hv.kept generation status hs with hle | ⟨rfl, ha⟩
    · obtain ⟨i, rfl⟩ := Nat.exists_eq_succ_of_ne_zero (Nat.ne_of_gt (hv.numbered _ _ hs))
      have hl : sessions[i]? = some sessions[i] := List.getElem?_eq_getElem hle
      rcases hv.told i _ hl with ⟨status', hs', hcon⟩ | ⟨-, -, hn⟩
      · rw [← hv.once _ _ _ hs hs'] at hcon
        exact .inl ⟨i, _, rfl, hl, hcon⟩
      · exact absurd hs (hn status)
    · have hp : c.session.phase ≠ .stopped := fun hp => by
        obtain ⟨hstage, ht⟩ := hc.standing.idle hp
        exact Tableau.not_awaits hstage ht status ha
      exact .inr ⟨hc.generation_eq hp, hp⟩
  · rcases hv.told i l hl with ⟨status, hs, -⟩ | ⟨-, hl, -⟩
    · exact .inl ⟨status, hs⟩
    · exact .inr hl

/-- A start that is refused while the engine is not ready tells so, between the launch and the words
of the final status. -/
theorem notices_refused :
    let store : ProfileStore Unit := .ofBackend ⟨"", fun w => (.ok [], w), fun _ w => (.ok (), w)⟩
    let profile : Profile := { Profile.new "h:1" with key := "k" }
    let actions : List Action :=
      [.start profile none none, .start profile none none, .giveBack 1 .createFailed,
        .call .polling, .proceed "n", .proceed "n"]
    let c := (idle store ⟨.log, 0, "", 1⟩ ()).run actions
    (idle store ⟨.log, 0, "", 1⟩ ()).returned actions = [(1, .createFailed)] ∧
      (idle store ⟨.log, 0, "", 1⟩ ()).refused actions = [1] ∧
      (idle store ⟨.log, 0, "", 1⟩ ()).readied actions = [] ∧
      c.events = [.changed .stopped .starting, .line (.notice "proxy already started"),
        .line (.notice "proxy cannot be created"), .changed .starting .stopped,
        .ended .createFailed] ∧
      Session.finalStatus false .createFailed = .createFailed ∧
      Status.createFailed.conditions.messages = ["proxy cannot be created"] ∧
      c.events ≠ .changed .stopped .starting :: (statusNotices .createFailed ++
        [.changed .starting .stopped, .ended .createFailed]) := by
  refine ⟨rfl, rfl, rfl, rfl, rfl, rfl, ?_⟩
  decide

end Scene

end ProxyControl
