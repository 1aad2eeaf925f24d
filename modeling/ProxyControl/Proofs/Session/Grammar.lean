import ProxyControl.Proofs.Session.Tableau

/-!
# The shape of a session's events

The events of a session come in a fixed order. A session that has not ended looks as its phase says,
and one that has ended looks so with its last events added. Among these, the lines of the engine
stand only between readiness and the notice that logging stopped.

## Main definitions

* `Opened phase`: the events of a session that has not ended
* `IsSession`: the events of a session that has ended
* `engineLines`: the lines of the engine among events
* `shownLines`: the lines of records that are worth showing

## Main results

* `IsSession.logging_stopped`: a session that was ready tells that logging stopped, and no line of
  the engine after that
-/

set_option autoImplicit false

namespace ProxyControl

/-- While the engine is serving there is a session. -/
theorem Phase.ne_stopped_of_serving {p : Phase} (hp : p = .running ∨ p = .stopping) :
    p ≠ .stopped := by
  rcases hp with rfl | rfl <;> decide

/-- Whether an event may come at any time while the engine is serving. -/
def SessionEvent.IsChatter (e : SessionEvent) : Prop :=
  e = busyEvent ∨ ∃ time text, e = .line (.engine time text)

/-- The event that logging stopped. -/
def loggingStopped : SessionEvent := .line (.notice "logging stopped")

/-- The events of a session that has not ended, by its phase. -/
inductive Opened : Phase → List SessionEvent → Prop
  /-- There is no session. -/
  | stopped : Opened .stopped []
  /-- The engine was called. -/
  | starting {busy : List SessionEvent} (hb : ∀ e ∈ busy, e = busyEvent) :
    Opened .starting (.changed .stopped .starting :: busy)
  /-- The engine was ready. -/
  | running {l chatter : List SessionEvent} (nickname : String) (hl : Opened .starting l)
    (hc : ∀ e ∈ chatter, e.IsChatter) : Opened .running (l ++ openingEvents nickname ++ chatter)
  /-- The engine was asked to stop. -/
  | stopping {l chatter : List SessionEvent} (hl : Opened .running l)
    (hc : ∀ e ∈ chatter, e.IsChatter) :
    Opened .stopping (l ++ .changed .running .stopping :: chatter)

/-- The events of a session that has ended. -/
inductive IsSession : List SessionEvent → Prop
  /-- The engine was never ready. -/
  | neverReady {l : List SessionEvent} (status : Status) (hl : Opened .starting l) :
    IsSession (l ++ closingEvents .starting status)
  /-- The engine was ready. -/
  | ready {phase : Phase} {l : List SessionEvent} (status : Status)
    (hp : phase = .running ∨ phase = .stopping) (hl : Opened phase l) :
    IsSession (l ++ loggingStopped :: closingEvents phase status)

/-- The events of a session whose start call was never made, as its thread could not be created. -/
def abortedEvents : List SessionEvent :=
  [.changed .stopped .starting, .changed .starting .stopped]

/-- The lines of the engine among some events. -/
def engineLines (events : List SessionEvent) : List LogLine :=
  events.filterMap fun
    | .line (.engine time text) => some (.engine time text)
    | _ => none

/-- The lines of records that are worth showing. -/
def shownLines (records : List LogRecord) : List LogLine :=
  (records.map .ofRecord).filter (·.isShown)

/-- The notice that the engine is serving is told from those that begin otherwise. -/
theorem startedNotice_ne {text : String} (h : ¬"proxy started".toList <+: text.toList)
    (nickname : String) : Session.startedNotice nickname ≠ text := by
  rintro rfl
  refine h ?_
  unfold Session.startedNotice
  split
  · exact List.prefix_rfl
  · rw [String.toList_append]
    exact (by decide : "proxy started".toList <+: "proxy started: ".toList).trans
      (List.prefix_append ..)

@[simp] theorem engineLines_append (l m : List SessionEvent) :
    engineLines (l ++ m) = engineLines l ++ engineLines m := List.filterMap_append

@[simp] theorem shownLines_append (l m : List LogRecord) :
    shownLines (l ++ m) = shownLines l ++ shownLines m := by
  simp [shownLines]

@[simp] theorem engineLines_statusNotices (status : Status) :
    engineLines (statusNotices status) = [] := by
  rw [engineLines, List.filterMap_eq_nil_iff]
  intro e he
  obtain ⟨text, -, rfl⟩ := List.mem_map.1 he
  rfl

@[simp] theorem engineLines_closingEvents (phase : Phase) (status : Status) :
    engineLines (closingEvents phase status) = [] := by
  rw [closingEvents, engineLines_append, engineLines_statusNotices]
  rfl

/-- A record is told as the line that it is shown as. -/
theorem engineLines_recordEvents (r : LogRecord) :
    engineLines (recordEvents r) = shownLines [r] := by
  unfold recordEvents shownLines
  by_cases h : (LogLine.ofRecord r).isShown = true
  · simp [h]
    rfl
  · simp [h, engineLines]

theorem isChatter_of_mem_recordEvents {r : LogRecord} {e : SessionEvent} (h : e ∈ recordEvents r) :
    e.IsChatter := by
  unfold recordEvents at h
  split at h
  · rw [List.mem_singleton] at h
    exact .inr ⟨_, _, h⟩
  · cases h

/-- The events of readiness do not tell that there is a session already. -/
theorem count_busyEvent_openingEvents (nickname : String) :
    (openingEvents nickname).count busyEvent = 0 := by
  have hn : Session.startedNotice nickname ≠ "proxy already started" :=
    startedNotice_ne (by decide) nickname
  rw [List.count_eq_zero]
  simp [openingEvents, busyEvent, hn.symm]

theorem count_busyEvent_recordEvents (r : LogRecord) : (recordEvents r).count busyEvent = 0 := by
  rw [List.count_eq_zero]
  unfold recordEvents
  split <;> simp [busyEvent, LogLine.ofRecord]

namespace Opened

variable {phase : Phase} {l chatter : List SessionEvent}

theorem eq_nil (h : Opened .stopped l) : l = [] := by
  cases h
  rfl

/-- While the engine is serving, chatter changes nothing. -/
theorem chat (hp : phase = .running ∨ phase = .stopping) (h : Opened phase l)
    (hc : ∀ e ∈ chatter, e.IsChatter) : Opened phase (l ++ chatter) := by
  have hall {k : List SessionEvent} (hk : ∀ e ∈ k, e.IsChatter) :
      ∀ e ∈ k ++ chatter, e.IsChatter := fun e he =>
    (List.mem_append.1 he).elim (hk e) (hc e)
  cases h with
  | running nickname hl hk =>
    rw [List.append_assoc]
    exact .running nickname hl (hall hk)
  | stopping hl hk =>
    rw [List.append_assoc, List.cons_append]
    exact .stopping hl (hall hk)
  | stopped | starting => simp at hp

/-- A start while there is a session changes nothing. -/
theorem busy (hp : phase ≠ .stopped) (h : Opened phase l) : Opened phase (l ++ [busyEvent]) := by
  have hc : ∀ e ∈ [busyEvent], e.IsChatter := fun e he => .inl (List.mem_singleton.1 he)
  cases h with
  | stopped => exact absurd rfl hp
  | starting hb =>
    refine .starting fun e he => ?_
    rcases List.mem_append.1 he with he | he
    · exact hb e he
    · exact List.mem_singleton.1 he
  | running nickname hl hk => exact chat (.inl rfl) (.running nickname hl hk) hc
  | stopping hl hk => exact chat (.inr rfl) (.stopping hl hk) hc

/-- A session that was not ready tells only that there is a session already. -/
theorem mem_starting {e : SessionEvent} (h : Opened .starting l) (he : e ∈ l) :
    e = .changed .stopped .starting ∨ e = busyEvent := by
  cases h with
  | starting hb =>
    rcases List.mem_cons.1 he with he | he
    · exact .inl he
    · exact .inr (hb e he)

/-- Before the session ends, it does not tell that logging stopped. -/
theorem loggingStopped_notMem (h : Opened phase l) : loggingStopped ∉ l := by
  have hchat {k : List SessionEvent} (hk : ∀ e ∈ k, e.IsChatter) : loggingStopped ∉ k := by
    intro hm
    rcases hk _ hm with h | ⟨time, text, h⟩
    · revert h
      decide
    · cases h
  have hopening (nickname : String) : loggingStopped ∉ openingEvents nickname := by
    have hn : Session.startedNotice nickname ≠ "logging stopped" :=
      startedNotice_ne (by decide) nickname
    simp [openingEvents, loggingStopped, hn.symm]
  induction h with
  | stopped => exact List.not_mem_nil
  | starting hb =>
    intro hm
    rcases mem_starting (.starting hb) hm with h | h <;> revert h <;> decide
  | running nickname hl hk ih =>
    simp [ih, hopening nickname, hchat hk]
  | stopping hl hk ih =>
    simp [ih, hchat hk, show loggingStopped ≠ .changed .running .stopping by decide]

end Opened

/-- **The end of a session that was ready.** It tells that logging stopped, and no line of the
engine comes after that. -/
theorem IsSession.logging_stopped {l : List SessionEvent} {nickname : String} (h : IsSession l)
    (hs : .started nickname ∈ l) :
    ∃ before after, l = before ++ loggingStopped :: after ∧ loggingStopped ∉ before ∧
      engineLines after = [] := by
  cases h with
  | neverReady status hl =>
    rcases List.mem_append.1 hs with hs | hs
    · rcases hl.mem_starting hs with h | h <;> cases h
    · simp [closingEvents, statusNotices] at hs
  | ready status hp hl =>
    exact ⟨_, _, rfl, hl.loggingStopped_notMem, engineLines_closingEvents _ status⟩

end ProxyControl
