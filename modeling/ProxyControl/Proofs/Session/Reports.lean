import ProxyControl.Proofs.Session.Scene

/-!
# What a session reports of its end

A session reports its end by an event with a status, and it keeps the status of the session that
ended last. Of all operations only the end itself does so, and both are the same word: the one that
the start call returned, where the session was ready, and else one that says that there was a
session before or that the engine could not be created.

## Main definitions

* `endedOf`: the statuses that events tell of
* `Session.Reports`: which statuses are told on the way from a session to a later one

## Main results

* `Status.messages_eq`: the words of a status, by its bits
* `Session.finalStatus_eq`, `Session.finalStatus_unready`: the word that a session ends with
* `Session.reports_finish`, `Session.reports_takeNext`: who reports a status
-/

set_option autoImplicit false

namespace ProxyControl

/-! ## Words -/

namespace Status

/-- **The words of a status**: those of its bits, always in this order. -/
theorem messages_eq (s : Status) : s.conditions.messages =
    [((1 : UInt32), "proxy already started"), (2, "proxy exited"), (4, "proxy panicked"),
      (8, "proxy cannot be created")].filterMap fun m =>
        if s.bits &&& m.1 ≠ 0 then some m.2 else none := by
  by_cases h1 : s.bits &&& 1 = 0 <;> by_cases h2 : s.bits &&& 2 = 0 <;>
    by_cases h4 : s.bits &&& 4 = 0 <;> by_cases h8 : s.bits &&& 8 = 0 <;>
    simp [conditions, Conditions.messages, alreadyRunningBit, exitedBit, panickedBit,
      createFailedBit, h1, h2, h4, h8]

/-- A reserved bit says nothing. -/
theorem conditions_congr {s t : Status} (h : s.bits &&& 15 = t.bits &&& 15) :
    s.conditions = t.conditions := by
  have hbit (b : UInt32) (hb : 15 &&& b = b) : s.bits &&& b = t.bits &&& b := by
    rw [← hb, ← UInt32.and_assoc, ← UInt32.and_assoc, h]
  simp only [conditions, hbit alreadyRunningBit (by decide), hbit exitedBit (by decide),
    hbit createFailedBit (by decide), hbit panickedBit (by decide)]

theorem or_and_distrib (a b c : UInt32) : (a ||| b) &&& c = (a &&& c) ||| (b &&& c) := by
  apply UInt32.eq_of_toBitVec_eq
  simp only [UInt32.toBitVec_and, UInt32.toBitVec_or]
  ext i
  simp [Bool.and_or_distrib_right]

theorem createFailed_both (s : Status) : (s.both .createFailed).conditions.createFailed = true := by
  simp only [conditions, both, or_and_distrib]
  rw [bne_iff_ne, ne_eq, UInt32.or_eq_zero_iff]
  rintro ⟨-, h⟩
  revert h
  decide

end Status

namespace Session

/-- **The word that a session ends with**: its own, where it was ready or the word says already why
it was not, and else one with the bits for an engine that could not be created. -/
theorem finalStatus_eq (ready : Bool) (s : Status) : finalStatus ready s =
    if ready = true ∨ s.bits &&& 1 ≠ 0 ∨ s.bits &&& 8 ≠ 0 then s else ⟨s.bits ||| 0x8008⟩ := by
  have hbits : Status.createFailed.bits = 0x8008 := rfl
  unfold finalStatus
  cases ready with
  | true => rfl
  | false =>
    by_cases h1 : s.bits &&& 1 = 0 <;> by_cases h8 : s.bits &&& 8 = 0 <;>
      simp [Status.conditions, Status.alreadyRunningBit, Status.createFailedBit, Status.both, h1,
        h8, hbits]

/-- A session that was never ready ends with a word that says why. -/
theorem finalStatus_unready (s : Status) :
    (finalStatus false s).conditions.createFailed = true ∨
      (finalStatus false s).conditions.alreadyRunning = true := by
  unfold finalStatus
  cases hc : s.conditions.createFailed with
  | true => exact .inl (by simpa using hc)
  | false =>
    cases ha : s.conditions.alreadyRunning with
    | true => exact .inr (by simpa using ha)
    | false => exact .inl s.createFailed_both

end Session

/-! ## Events -/

/-- The statuses that events tell of. -/
def endedOf (events : List SessionEvent) : List Status :=
  events.filterMap fun
    | .ended status => some status
    | _ => none

@[simp] theorem endedOf_nil : endedOf [] = [] := rfl

@[simp] theorem endedOf_append (l m : List SessionEvent) :
    endedOf (l ++ m) = endedOf l ++ endedOf m := List.filterMap_append

@[simp] theorem endedOf_ended (status : Status) (l : List SessionEvent) :
    endedOf (.ended status :: l) = status :: endedOf l := rfl

@[simp] theorem endedOf_changed (before after : Phase) (l : List SessionEvent) :
    endedOf (.changed before after :: l) = endedOf l := rfl

@[simp] theorem endedOf_started (nickname : String) (l : List SessionEvent) :
    endedOf (.started nickname :: l) = endedOf l := rfl

@[simp] theorem endedOf_line (line : LogLine) (l : List SessionEvent) :
    endedOf (.line line :: l) = endedOf l := rfl

@[simp] theorem endedOf_statusNotices (status : Status) : endedOf (statusNotices status) = [] := by
  rw [endedOf, List.filterMap_eq_nil_iff]
  intro e he
  obtain ⟨text, -, rfl⟩ := List.mem_map.1 he
  rfl

/-! ## Reports -/

namespace Session

/-- The statuses `l` are told on the way from a session to a later one, the last one is kept, and
the session does not come to rest without one. -/
structure Reports (s s' : Session) (l : List Status) : Prop where
  told : endedOf s'.events = endedOf s.events ++ l
  kept : s'.lastStatus = l.getLast?.or s.lastStatus
  rest : s'.phase = .stopped → s.phase = .stopped ∨ l ≠ []

variable {s s' s'' : Session}

namespace Reports

theorem refl (s : Session) : s.Reports s [] := ⟨(List.append_nil _).symm, rfl, .inl⟩

theorem trans {l m : List Status} (h : s.Reports s' l) (h' : s'.Reports s'' m) :
    s.Reports s'' (l ++ m) where
  told := by rw [h'.told, h.told, List.append_assoc]
  kept := by rw [h'.kept, h.kept, List.getLast?_append, Option.or_assoc]
  rest hp := by
    rcases h'.rest hp with hp | hm
    · exact (h.rest hp).imp_right fun hl hn => hl (List.append_eq_nil_iff.1 hn).1
    · exact .inr fun hn => hm (List.append_eq_nil_iff.1 hn).2

/-- Nothing is told of an end. -/
theorem of_eq (he : endedOf s'.events = endedOf s.events) (hl : s'.lastStatus = s.lastStatus)
    (hp : s'.phase = .stopped → s.phase = .stopped) : s.Reports s' [] :=
  ⟨by rw [he, List.append_nil], hl, fun h => .inl (hp h)⟩

end Reports

theorem reports_notifyStatus (status : Status) (s : Session) :
    s.Reports (s.notifyStatus status) [] := by
  rw [notifyStatus_eq]
  exact .of_eq (by simp) rfl id

theorem reports_launch (hp : s.phase = .stopped) (p : Profile) (threadError : Option IoError) :
    s.Reports (s.launch p threadError).2 [] := by
  cases threadError with
  | none =>
    rw [launch_none_eq]
    exact .of_eq (by simp) rfl fun _ => hp
  | some e =>
    rw [launch_some_eq]
    exact .of_eq (by simp) rfl fun _ => hp

theorem reports_stop (s : Session) : s.Reports s.stop.2 [] := by
  by_cases hp : s.phase = .running
  · rw [stop_eq hp]
    exact .of_eq (by simp) rfl (by simp)
  · rw [stop_of_ne hp]
    exact .refl s

theorem reports_switchMode (mode : Mode) (s : Session) : s.Reports (s.switchMode mode).2 [] := by
  unfold switchMode
  dsimp only
  split <;> exact .of_eq rfl rfl id

theorem reports_setMitm (on : Bool) (s : Session) : s.Reports (s.setMitm on).2 [] := by
  unfold setMitm
  dsimp only
  split <;> exact .of_eq rfl rfl id

theorem reports_onReady (name : String) (generation : Nat) (s : Session) :
    s.Reports (s.onReady name generation) [] := by
  by_cases h : generation = s.generation ∧ s.phase = .starting
  · rw [onReady_eq name h.1 h.2]
    exact .of_eq (by simp) rfl (by simp)
  · rw [onReady_of_not name h]
    exact .refl s

theorem reports_append (line : LogLine) (s : Session) : s.Reports (s.append line) [] := by
  rw [append_eq]
  refine .of_eq ?_ rfl id
  cases line.isShown <;> simp

theorem reports_onLog (generation : Nat) (record : LogRecord) (s : Session) :
    s.Reports (s.onLog generation record) [] := by
  unfold onLog
  split
  · exact reports_append _ s
  · exact .refl s

theorem reports_closeStream (s : Session) : s.Reports s.closeStream [] := by
  rw [closeStream_eq]
  exact .of_eq rfl rfl id

/-- **The end of a session** reports the word that it ends with. -/
theorem reports_finish (status : Status) (s : Session) :
    s.Reports (s.finish status) [finalStatus s.readySeen status] := by
  rw [finish_eq]
  exact ⟨by simp, rfl, by simp⟩

theorem reports_conclude (status : Status) (s : Session) :
    s.Reports (s.conclude status) [finalStatus s.readySeen status] := by
  rw [conclude_eq]
  exact ⟨by simp, rfl, by simp⟩

/-- A message that is handled reports a status if the start call of the session has returned. -/
theorem reports_handleOne (name : String) (s : Session) (m : Message) :
    (∃ status, m = .exited s.generation status ∧
        s.Reports (s.handleOne name m) [finalStatus s.readySeen status]) ∨
      s.Reports (s.handleOne name m) [] := by
  cases m with
  | ready generation => exact .inr (reports_onReady name generation s)
  | log generation record => exact .inr (reports_onLog generation record s)
  | exited generation status =>
    by_cases h : generation = s.generation
    · rw [handleOne, if_pos h]
      subst h
      have hlive : s.Reports { s with live := none } [] := .of_eq rfl rfl id
      exact .inl ⟨status, rfl, hlive.trans (reports_finish status _)⟩
    · rw [handleOne, if_neg h]
      exact .inr (.refl s)

/-- **A message that is taken** reports a status if the session was waiting for its log stream with
that status, or if the message tells that its start call has returned with it. -/
theorem reports_takeNext (name : String) (stage : Stage) (s : Session) :
    (∃ status, (stage = .draining status ∨ .exited s.generation status ∈ s.queue) ∧
        s.Reports (s.takeNext name stage).2 [finalStatus s.readySeen status]) ∨
      s.Reports (s.takeNext name stage).2 [] := by
  rcases s.takeNext_cases name stage with ⟨-, -, hp⟩ | ⟨status, rfl, -, hp⟩ |
    ⟨status, rest, -, -, -, hp⟩ | ⟨m, rest, hq, -, hp⟩ <;> rw [hp]
  · exact .inr (.refl s)
  · exact .inl ⟨status, .inl rfl, reports_conclude status s⟩
  · have hrest : s.Reports { s with queue := rest } [] := .of_eq rfl rfl id
    exact .inr (hrest.trans (reports_closeStream _))
  · have hrest : s.Reports { s with queue := rest } [] := .of_eq rfl rfl id
    rcases reports_handleOne name { s with queue := rest } m with ⟨status, rfl, h⟩ | h
    · refine .inl ⟨status, .inr ?_, hrest.trans h⟩
      rw [hq]
      exact List.mem_cons_self
    · exact .inr (hrest.trans h)

theorem reports_receive (name : String) (s : Session) (m : Message) :
    ∃ l, s.Reports (s.receive name m).2 l := by
  have hone : ∃ l, s.Reports (s.handleOne name m) l := by
    rcases s.reports_handleOne name m with ⟨status, -, h⟩ | h
    · exact ⟨_, h⟩
    · exact ⟨_, h⟩
  unfold receive
  split
  · split
    · exact ⟨[], s.reports_closeStream⟩
    · exact hone
  · exact hone

theorem reports_foldl_handleOne (name : String) (messages : List Message) (s : Session) :
    ∃ l, s.Reports (messages.foldl (handleOne name) s) l := by
  induction messages generalizing s with
  | nil => exact ⟨[], .refl s⟩
  | cons m messages ih =>
    obtain ⟨l, hl⟩ := ih (s.handleOne name m)
    rcases s.reports_handleOne name m with ⟨status, -, h⟩ | h
    · exact ⟨_, h.trans hl⟩
    · exact ⟨_, h.trans hl⟩

/-- The messages that are handled at once report what they report one after another. -/
theorem reports_handleAll (name : String) (tail messages : List Message) (s : Session) :
    ∃ l, s.Reports (handleAll name tail messages s) l := by
  induction messages generalizing s with
  | nil => exact ⟨[], .refl s⟩
  | cons m rest ih =>
    obtain ⟨l, hl⟩ := s.reports_receive name m
    rw [handleAll]
    rcases hr : s.receive name m with ⟨_ | status, s'⟩ <;> rw [hr] at hl
    · obtain ⟨k, hk⟩ := ih s'
      exact ⟨_, hl.trans hk⟩
    · obtain ⟨k, hk⟩ := reports_foldl_handleOne name (rest ++ tail) s'
      exact ⟨_, (hl.trans hk).trans (reports_conclude status _)⟩

theorem reports_handleQueue (name : String) (tail : List Message) (s : Session) :
    ∃ l, s.Reports (s.handleQueue name tail) l := by
  have hqueue : s.Reports { s with queue := [] } [] := .of_eq rfl rfl id
  obtain ⟨l, hl⟩ := reports_handleAll name tail s.queue { s with queue := [] }
  exact ⟨_, hqueue.trans hl⟩

end Session

/-- A start reports no end. -/
theorem Controller.reports_start {W : Type} (p : Profile) (mode : Option Mode)
    (threadError : Option IoError) (c : Controller W) (w : W) :
    c.session.Reports (c.start p mode threadError w).2.1.session [] := by
  unfold Controller.start
  split
  · exact .refl _
  · split
    · exact Session.reports_notifyStatus _ _
    · next hp =>
      let s := { c.session with pendingMode := mode.getD c.session.pendingMode }
      have hmode : c.session.Reports s [] := .of_eq rfl rfl id
      have hp' : s.phase = .stopped := Decidable.not_not.1 hp
      exact hmode.trans (Session.reports_launch hp' p threadError)

end ProxyControl
