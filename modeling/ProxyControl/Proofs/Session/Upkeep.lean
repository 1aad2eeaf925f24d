import ProxyControl.Proofs.Session.Events
import ProxyControl.Session.Host

/-!
# What a session keeps

Messages that are handled and requests that are carried out go on with a session, and change neither
its generation nor what was asked for last: only the caller asks for a mode or for inspection, and
only a start begins a generation. A session that has stopped stays so until the next start, and one
whose start call has returned stops with the messages that are handled next.

## Main definitions

* `Session.asked`: the generation, and what was asked for last
* `Message.IsLog`: whether a message hands on a record
* `Phase.after`: the phase that a message leads to

## Main results

* `Session.asked_handleQueue`: messages change nothing that was asked for
* `Session.phase_handleAll`: messages lead to the phase that they lead to one by one
* `Session.phase_handleQueue`: the end of a start call stops the session
* `Host.exists_session_performAll`: what carrying out its requests changes of a session
-/

set_option autoImplicit false

namespace ProxyControl

/-- Whether a message hands on a record. -/
def Message.IsLog : Message → Prop
  | .log _ _ => True
  | .ready _ | .exited _ _ => False

namespace Phase

/-- The phase after a message, in a session of the generation. -/
def after (generation : Nat) (p : Phase) : Message → Phase
  | .ready g => if g = generation ∧ p = .starting then .running else p
  | .log _ _ => p
  | .exited g _ => if g = generation then .stopped else p

theorem after_eq_stopped_iff {generation : Nat} {p : Phase} {m : Message} :
    p.after generation m = .stopped ↔ p = .stopped ∨ ∃ status, m = .exited generation status := by
  cases m with
  | ready g =>
    by_cases h : g = generation ∧ p = .starting
    · simp [after, h]
    · simp [after, h]
  | log g record => simp [after]
  | exited g status =>
    by_cases h : g = generation
    · simp [after, h]
    · simp [after, h]

/-- Only the end of its start call stops a session. -/
theorem foldl_after_eq_stopped_iff {generation : Nat} {messages : List Message} {p : Phase} :
    messages.foldl (after generation) p = .stopped ↔
      p = .stopped ∨ ∃ status, .exited generation status ∈ messages := by
  induction messages generalizing p with
  | nil => simp
  | cons m messages ih =>
    rw [List.foldl_cons, ih, after_eq_stopped_iff, or_assoc, ← exists_or]
    simp only [List.mem_cons, eq_comm]

theorem foldl_after_stopped (generation : Nat) (messages : List Message) :
    messages.foldl (after generation) .stopped = .stopped :=
  foldl_after_eq_stopped_iff.2 (.inl rfl)

end Phase

namespace Session

variable {s : Session}

/-! ## What was asked for -/

/-- The generation of a session, and the mode and the inspection that were asked for last. -/
def asked (s : Session) : Nat × Mode × Bool := (s.generation, s.pendingMode, s.pendingMitm)

theorem switchMode_eq (m : Mode) (s : Session) :
    (s.switchMode m).2 = { s with
      pendingMode := m
      requests := s.requests ++ if s.phase = .running then [.switchMode m.constant] else [] } := by
  by_cases hp : s.phase = .running <;> simp [switchMode, request, hp]

theorem setMitm_eq (on : Bool) (s : Session) :
    (s.setMitm on).2 = { s with
      pendingMitm := on
      live := if s.phase = .running then none else s.live
      requests := s.requests ++ if s.phase = .running then [.setMitm on] else [] } := by
  by_cases hp : s.phase = .running <;> simp [setMitm, request, hp]

theorem asked_handleOne (name : String) (s : Session) (m : Message) :
    (s.handleOne name m).asked = s.asked := by
  cases m with
  | ready generation =>
    by_cases h : generation = s.generation ∧ s.phase = .starting
    · rw [handleOne, onReady_eq name h.1 h.2]
      rfl
    · rw [handleOne, onReady_of_not name h]
  | log generation record =>
    by_cases h : generation = s.generation
    · rw [handleOne, onLog_eq h, append_eq]
      rfl
    · rw [handleOne, onLog, if_neg h]
  | exited generation status =>
    by_cases h : generation = s.generation
    · rw [handleOne, if_pos h, finish_eq]
      rfl
    · rw [handleOne, if_neg h]

theorem asked_foldl_handleOne (name : String) (messages : List Message) (s : Session) :
    (messages.foldl (handleOne name) s).asked = s.asked := by
  induction messages generalizing s with
  | nil => rfl
  | cons m messages ih => rw [List.foldl_cons, ih, asked_handleOne]

theorem asked_receive (name : String) (m : Message) (s : Session) :
    (s.receive name m).2.asked = s.asked := by
  unfold receive
  split
  · split
    · rw [closeStream_eq]
      rfl
    · exact asked_handleOne name s _
  · exact asked_handleOne name s _

theorem asked_handleAll (name : String) (tail messages : List Message) (s : Session) :
    (handleAll name tail messages s).asked = s.asked := by
  induction messages generalizing s with
  | nil => rfl
  | cons m rest ih =>
    have hm := asked_receive name m s
    rw [handleAll]
    rcases hr : s.receive name m with ⟨_ | status, s'⟩ <;> rw [hr] at hm
    · exact (ih s').trans hm
    · have hrest := asked_foldl_handleOne name (rest ++ tail) s'
      dsimp only
      rw [conclude_eq]
      exact hrest.trans hm

/-- Messages change nothing that was asked for. -/
theorem asked_handleQueue (name : String) (tail : List Message) (s : Session) :
    (s.handleQueue name tail).asked = s.asked :=
  asked_handleAll name tail s.queue { s with queue := [] }

/-! ## The phase that messages lead to -/

theorem phase_handleOne (name : String) (s : Session) (m : Message) :
    (s.handleOne name m).phase = s.phase.after s.generation m := by
  cases m with
  | ready generation =>
    by_cases h : generation = s.generation ∧ s.phase = .starting
    · rw [handleOne, onReady_eq name h.1 h.2, Phase.after, if_pos h]
    · rw [handleOne, onReady_of_not name h, Phase.after, if_neg h]
  | log generation record =>
    by_cases h : generation = s.generation
    · rw [handleOne, onLog_eq h, append_eq, Phase.after]
    · rw [handleOne, onLog, if_neg h, Phase.after]
  | exited generation status =>
    by_cases h : generation = s.generation
    · rw [handleOne, if_pos h, finish_eq, Phase.after, if_pos h]
    · rw [handleOne, if_neg h, Phase.after, if_neg h]

/-- A message has the log stream given up at the end of its session, or is all that is handled. -/
theorem receive_cases (name : String) (m : Message) (s : Session) :
    (∃ status, m = .exited s.generation status ∧ s.receive name m = (some status, s.closeStream)) ∨
      s.receive name m = (none, s.handleOne name m) := by
  cases m with
  | exited generation status =>
    by_cases h : generation = s.generation ∧ s.holdsStream = true
    · obtain ⟨rfl, hs⟩ := h
      exact .inl ⟨status, rfl, if_pos ⟨rfl, hs⟩⟩
    · exact .inr (if_neg h)
  | _ => exact .inr rfl

/-- Whatever a log stream sends to its end, messages lead a session to the phase that they lead to
one by one. -/
theorem phase_handleAll (name : String) (tail messages : List Message) (s : Session) :
    (handleAll name tail messages s).phase =
      messages.foldl (Phase.after s.generation) s.phase := by
  induction messages generalizing s with
  | nil => rfl
  | cons m rest ih =>
    rw [handleAll, List.foldl_cons]
    rcases receive_cases name m s with ⟨status, rfl, hr⟩ | hr <;> rw [hr]
    · dsimp only
      rw [conclude_eq, Phase.after, if_pos rfl, Phase.foldl_after_stopped]
    · dsimp only
      have hgeneration : (s.handleOne name m).generation = s.generation :=
        congrArg Prod.fst (asked_handleOne name s m)
      rw [ih, hgeneration, phase_handleOne]

theorem phase_handleQueue_eq (name : String) (tail : List Message) (s : Session) :
    (s.handleQueue name tail).phase = s.queue.foldl (Phase.after s.generation) s.phase :=
  phase_handleAll name tail s.queue { s with queue := [] }

/-- **The end of a start call stops the session**, and a session that has stopped stays so. -/
theorem phase_handleQueue (name : String) (tail : List Message)
    (h : s.phase = .stopped ∨ ∃ status, .exited s.generation status ∈ s.queue) :
    (s.handleQueue name tail).phase = .stopped := by
  rw [phase_handleQueue_eq]
  exact Phase.foldl_after_eq_stopped_iff.2 h

/-! ## Records that are handled -/

/-- Records are shown, and change nothing else. -/
theorem exists_handleAll_eq (name : String) (tail : List Message) {messages : List Message}
    (h : ∀ m ∈ messages, m.IsLog) (s : Session) : ∃ logs events,
      handleAll name tail messages s = { s with logs := logs, events := events } := by
  induction messages generalizing s with
  | nil => exact ⟨s.logs, s.events, rfl⟩
  | cons m rest ih =>
    cases m with
    | log generation record =>
      rw [handleAll]
      dsimp only [receive, handleOne]
      obtain ⟨logs, events, hrest⟩ :=
        ih (fun m hm => h m (List.mem_cons_of_mem _ hm)) (s.onLog generation record)
      refine ⟨logs, events, hrest.trans ?_⟩
      by_cases hg : generation = s.generation
      · rw [onLog_eq hg, append_eq]
      · rw [onLog, if_neg hg]
    | ready generation => exact absurd (h _ List.mem_cons_self) id
    | exited generation status => exact absurd (h _ List.mem_cons_self) id

/-- A session that is told that it is ready, and then of records, is running. -/
theorem handleQueue_of_ready (name : String) {records : List Message}
    (hp : s.phase = .starting) (hq : s.queue = .ready s.generation :: records)
    (hl : ∀ m ∈ records, m.IsLog) :
    (s.handleQueue name []).phase = .running ∧ (s.handleQueue name []).queue = [] ∧
      (s.handleQueue name []).generation = s.generation ∧
      (s.handleQueue name []).requests =
        s.requests ++ [.openStream s.generation, .switchMode s.pendingMode.constant] ++
          if s.pendingMitm then [.delayMitm s.generation] else [] := by
  have hready := onReady_eq (s := { s with queue := [] }) name rfl hp
  obtain ⟨logs, events, hrest⟩ :=
    exists_handleAll_eq name [] hl (onReady name s.generation { s with queue := [] })
  have hqueue : s.handleQueue name [] =
      handleAll name [] records (onReady name s.generation { s with queue := [] }) := by
    rw [handleQueue, hq]
    rfl
  rw [hqueue, hrest]
  dsimp only at hready ⊢
  rw [hready]
  exact ⟨rfl, rfl, rfl, rfl⟩

end Session

/-! ## Requests that are carried out -/

namespace Host

variable {E : Type} {h : Host E}

/-- A start call that returns adds to the queue. -/
theorem exists_session_collect (h : Host E) :
    ∃ messages, h.collect.session = { h.session with queue := h.session.queue ++ messages } := by
  unfold collect
  split
  · exact ⟨_, rfl⟩
  · exact ⟨[], by rw [List.append_nil]⟩

/-- A request that is carried out adds to the queue, and changes nothing else of the session. -/
theorem exists_session_perform (h : Host E) (r : Request) :
    ∃ messages, (h.perform r).session =
      { h.session with queue := h.session.queue ++ messages } := by
  cases r with
  | launch generation params =>
    unfold perform
    dsimp only
    split <;> split
    · next status _ _ =>
      exact ⟨[.ready generation, .exited generation status],
        by simp [mapSession, session, Session.enqueue]⟩
    · exact ⟨[_], rfl⟩
    · exact ⟨[_], rfl⟩
    · exact ⟨[], by rw [List.append_nil]; rfl⟩
  | stopEngine => exact exists_session_collect _
  | _ => exact ⟨[], by rw [List.append_nil]; rfl⟩

/-- **What carrying out its requests changes of a session**: messages are added to its queue. -/
theorem exists_session_performAll (h : Host E) :
    ∃ messages, h.performAll.session =
      { h.session with queue := h.session.queue ++ messages, requests := [] } := by
  have hfold (requests : List Request) (h : Host E) : ∃ messages,
      (requests.foldl perform h).session =
        { h.session with queue := h.session.queue ++ messages } := by
    induction requests generalizing h with
    | nil => exact ⟨[], by rw [List.append_nil]; rfl⟩
    | cons r requests ih =>
      obtain ⟨messages, hm⟩ := exists_session_perform h r
      obtain ⟨more, hrest⟩ := ih (h.perform r)
      refine ⟨messages ++ more, hrest.trans ?_⟩
      rw [hm, List.append_assoc]
  exact hfold _ _

theorem requests_performAll (h : Host E) : h.performAll.session.requests = [] := by
  obtain ⟨messages, hm⟩ := exists_session_performAll h
  rw [hm]

theorem performAll_eq_self (hr : h.session.requests = []) : h.performAll = h := by
  obtain ⟨engine, state, ⟨session, store⟩, disk, stream, inFlight, delayed, now, launches⟩ := h
  obtain ⟨options, phase, pendingMode, pendingMitm, generation, readySeen, nickname, lastStatus,
    queue, holdsThread, holdsStream, live, logs, events, requests⟩ := session
  obtain rfl : requests = [] := hr
  rfl

/-- A session that is not running is not asked to stop. -/
theorem stop_eq_of_ne (hr : h.session.requests = []) (hp : h.session.phase ≠ .running) :
    h.stop = (.error (.invalidTransition "stop" h.session.phase), h) := by
  have hs : h.session.stop = (.error (.invalidTransition "stop" h.session.phase), h.session) :=
    if_pos hp
  unfold stop
  rw [hs]
  exact Prod.ext rfl (performAll_eq_self hr)

end Host

end ProxyControl
