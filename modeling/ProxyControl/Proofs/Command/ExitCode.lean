import ProxyControl.Command.Run
import ProxyControl.Proofs.Session.Verdict

/-!
# The exit code of a session that is run for an operator

A session that is run for an operator is polled between the operator's lines, and each poll hands on
the events since the last one. Whether the session has failed is read off the statuses among them;
the outcome is read off that, once a poll finds that the session has stopped. As everything that
happens between two polls reports to the session, the last status that was heard is the one that the
session ended with.

## Main definitions

* `Attended.Move`, `Attended.run`: what may happen to such a session, in any order
* `Attended.heard`: the events that polls handed on
* `Attended.Informed`: what was heard, and what the session keeps

## Main results

* `Attended.Informed.make`: every move keeps the operator informed
* `Attended.code_run`: the exit code of a session that has stopped
* `status_reported`: from what a start call returns to the exit code
-/

set_option autoImplicit false

namespace ProxyControl

/-! ## What runs beside the controller -/

namespace Host

variable {E : Type}

/-- What of the session is reported. -/
def told (h : Host E) : Phase × Option Status × List SessionEvent :=
  (h.session.phase, h.session.lastStatus, h.session.events)

theorem reports_of_told {h h' : Host E} (ht : h'.told = h.told) :
    h.session.Reports h'.session [] := by
  simp only [told, Prod.mk.injEq] at ht
  obtain ⟨hp, hl, he⟩ := ht
  exact .of_eq (congrArg endedOf he) hl fun h => hp.symm.trans h

/-- A log stream only adds to the queue. -/
theorem told_step (slices : Nat) (point : StreamPoint) (h : Host E) :
    (point.step streamHost slices h).2.told = h.told := by
  cases point with
  | asking seq =>
    simp only [StreamPoint.step, streamHost]
    rcases h.engine.logLength h.state with _ | _ | n <;> rfl
  | pausing seq left => cases left <;> rfl
  | _ => rfl

theorem told_runWhile (slices : Nat) (p : StreamPoint → Bool) (n : Nat) (point : StreamPoint)
    (h : Host E) : (StreamPoint.runWhile streamHost slices p n point h).2.told = h.told := by
  induction n generalizing point h with
  | zero => rfl
  | succ n ih =>
    rw [StreamPoint.runWhile]
    split
    · exact (ih _ _).trans (told_step slices point h)
    · rfl

theorem told_flow (h : Host E) : h.flow.told = h.told := by
  unfold flow
  split
  · rfl
  · exact told_runWhile _ _ _ _ h

theorem told_rest (h : Host E) : h.rest.told = h.told := by
  unfold rest
  split
  · rfl
  · exact told_step _ _ h

theorem told_endDelay (time : Nat) (h : Host E) : (h.endDelay time).told = h.told := by
  unfold endDelay
  dsimp only
  split <;> rfl

theorem told_collect (h : Host E) : h.collect.told = h.told := by
  unfold collect
  split <;> rfl

theorem told_tick (h : Host E) : h.tick.told = h.told := by
  unfold tick
  rw [told_collect, told_endDelay, told_flow, told_rest]
  rfl

theorem told_perform (h : Host E) (r : Request) : (h.perform r).told = h.told := by
  cases r with
  | launch generation params =>
    unfold perform
    dsimp only
    split <;> split <;> rfl
  | stopEngine => exact told_collect _
  | _ => rfl

theorem told_performAll (h : Host E) : h.performAll.told = h.told := by
  have hfold (requests : List Request) (h : Host E) :
      (requests.foldl perform h).told = h.told := by
    induction requests generalizing h with
    | nil => rfl
    | cons r requests ih => rw [List.foldl_cons, ih, told_perform]
  exact hfold _ _

/-- What a session asks for is carried out without a report. -/
theorem reports_performAll {s : Session} {l : List Status} {h : Host E}
    (hs : s.Reports h.session l) : s.Reports h.performAll.session l := by
  have hperform := hs.trans (reports_of_told (told_performAll h))
  rwa [List.append_nil] at hperform

theorem reports_handle (h : Host E) : ∃ l, h.session.Reports h.handle.session l := by
  obtain ⟨l, hl⟩ := h.session.reports_handleQueue (h.engine.nickname h.state) []
  exact ⟨l, reports_performAll hl⟩

theorem reports_stop (h : Host E) : h.session.Reports h.stop.2.session [] :=
  reports_performAll h.session.reports_stop

theorem reports_switchMode (mode : Mode) (h : Host E) :
    h.session.Reports (h.switchMode mode).2.session [] :=
  reports_performAll (h.session.reports_switchMode mode)

theorem reports_setMitm (on : Bool) (h : Host E) :
    h.session.Reports (h.setMitm on).2.session [] :=
  reports_performAll (h.session.reports_setMitm on)

theorem reports_start (p : Profile) (mode : Option Mode) (h : Host E) :
    h.session.Reports (h.start p mode).2.session [] :=
  reports_performAll (h.controller.reports_start p mode none h.disk)

end Host

/-- A start that makes a start call leaves the session starting. -/
theorem Controller.phase_of_launched {W : Type} {p : Profile} {mode : Option Mode}
    {threadError : Option IoError} {c : Controller W} {w : W}
    (h : (c.start p mode threadError w).1 = .ok .launched) :
    (c.start p mode threadError w).2.1.session.phase = .starting := by
  unfold start at h ⊢
  split at h
  · cases h
  · split at h
    · cases h
    · next hp =>
      cases threadError with
      | none =>
        rw [if_neg hp]
        rfl
      | some e => cases h

theorem Host.of_start_launched {E : Type} {p : Profile} {mode : Option Mode} {h h' : Host E}
    (hs : h.start p mode = (.ok .launched, h')) :
    h.session.Reports h'.session [] ∧ h'.session.phase = .starting := by
  have hstart : (h.controller.start p mode none h.disk).1 = .ok .launched :=
    congrArg Prod.fst hs
  have htold := told_performAll { h with
    controller := (h.controller.start p mode none h.disk).2.1
    disk := (h.controller.start p mode none h.disk).2.2 }
  obtain rfl : (h.start p mode).2 = h' := congrArg Prod.snd hs
  exact ⟨reports_start p mode h,
    (congrArg Prod.fst htold).trans (Controller.phase_of_launched hstart)⟩

namespace Attended

variable {E : Type} {a b : Attended E} {told : List Status}

/-! ## Moves -/

/-- What may happen to a session that is run for an operator. -/
inductive Move where
  /-- The messages that have come are handled, and what they tell is printed. -/
  | poll
  /-- The operator types a line. -/
  | obey (line : String)
  /-- A slice of time goes by. -/
  | wait
  /-- The operator's input has ended. -/
  | endInput
  deriving DecidableEq, Repr

/-- The session after a move. -/
def make (a : Attended E) : Move → Attended E
  | .poll => a.poll
  | .obey line => a.obey line
  | .wait => a.wait
  | .endInput => a.endInput

/-- The session after a list of moves. -/
def run (a : Attended E) (moves : List Move) : Attended E := moves.foldl make a

/-- The events that a move hands on. -/
def tells (a : Attended E) : Move → List SessionEvent
  | .poll => a.host.handle.flow.session.events
  | .obey _ | .wait | .endInput => []

/-- The events that the polls of a list of moves hand on. -/
def heard : Attended E → List Move → List SessionEvent
  | _, [] => []
  | a, m :: moves => a.tells m ++ (a.make m).heard moves

theorem run_append (a : Attended E) (moves more : List Move) :
    a.run (moves ++ more) = (a.run moves).run more := List.foldl_append

/-! ## What is heard -/

/-- The given statuses were told to the operator: the session keeps the last one of these and of
those to be told, it has one if it is over, and it has failed if the last one that was told asks for
action. -/
structure Informed (a : Attended E) (told : List Status) : Prop where
  kept : a.session.lastStatus = (told ++ endedOf a.session.events).getLast?
  ended : a.session.phase = .stopped → told ++ endedOf a.session.events ≠ []
  failed : a.hasFailed = told.getLast?.any fun status => status.conditions.isActionable

/-- What is reported is told later. -/
theorem Informed.go (h : a.Informed told) {l : List Status}
    (hr : a.session.Reports b.session l) (hf : b.hasFailed = a.hasFailed) : b.Informed told where
  kept := by
    rw [hr.told, hr.kept, h.kept, ← List.append_assoc]
    exact List.getLast?_append.symm
  ended hp hn := by
    rw [hr.told, ← List.append_assoc] at hn
    obtain ⟨hn, hl⟩ := List.append_eq_nil_iff.1 hn
    rcases hr.rest hp with hp | hne
    · exact h.ended hp hn
    · exact hne hl
  failed := hf.trans h.failed

theorem Informed.wait (h : a.Informed told) : a.wait.Informed told :=
  h.go (Host.reports_of_told (Host.told_tick a.host)) rfl

theorem Informed.requestStop (h : a.Informed told) : a.requestStop.Informed told := by
  have hstop := a.host.reports_stop
  unfold Attended.requestStop
  split
  · next hs =>
    rw [hs] at hstop
    exact h.go hstop rfl
  · next hs =>
    rw [hs] at hstop
    exact h.go hstop rfl

theorem Informed.awaitStop (h : a.Informed told) (n : Nat) : (a.awaitStop n).Informed told := by
  induction n generalizing a with
  | zero => exact h
  | succ n ih =>
    obtain ⟨l, hl⟩ := a.host.reports_handle
    have hhandle : Informed { a with host := a.host.handle } told := h.go hl rfl
    rw [Attended.awaitStop]
    split
    · exact hhandle
    · exact ih hhandle.wait

theorem Informed.endInput (h : a.Informed told) : a.endInput.Informed told := by
  have hasked : (if a.stopSent then a else a.requestStop).Informed told := by
    split
    · exact h
    · exact h.requestStop
  unfold Attended.endInput
  generalize (if a.stopSent then a else a.requestStop) = b at hasked ⊢
  dsimp only
  split
  · exact hasked
  · have hawaited := hasked.awaitStop stopSlices
    generalize b.awaitStop stopSlices = b at hawaited ⊢
    split
    · exact hawaited
    · exact hawaited.go (.refl _) rfl

theorem Informed.obey (h : a.Informed told) (line : String) : (a.obey line).Informed told := by
  unfold Attended.obey
  split
  · exact h
  · split
    · next control _ =>
      cases control with
      | mode m => exact h.go (a.host.reports_switchMode m) rfl
      | mitm on => exact h.go (a.host.reports_setMitm on) rfl
      | status => exact h.go (.refl _) rfl
      | stop => exact h.requestStop
    · exact h.go (.refl _) rfl

/-- Of the events that are told, only an end changes whether the session has failed. -/
theorem foldl_report (events : List SessionEvent) (a : Attended E) :
    (events.foldl (fun a e => a.report e) a).host = a.host ∧
      (events.foldl (fun a e => a.report e) a).hasFailed =
        ((endedOf events).getLast?.map fun status => status.conditions.isActionable).getD
          a.hasFailed := by
  induction events generalizing a with
  | nil => exact ⟨rfl, rfl⟩
  | cons e events ih =>
    rw [List.foldl_cons]
    obtain ⟨hh, hf⟩ := ih (a.report e)
    cases e with
    | ended status =>
      refine ⟨hh, hf.trans ?_⟩
      rw [endedOf_ended, List.getLast?_cons]
      cases (endedOf events).getLast? <;> rfl
    | _ => exact ⟨hh, hf⟩

theorem Informed.poll (h : a.Informed told) :
    a.poll.Informed (told ++ endedOf (a.tells .poll)) := by
  obtain ⟨l, hl⟩ := a.host.reports_handle
  have hflow := hl.trans (Host.reports_of_told (Host.told_flow a.host.handle))
  have hready : Informed { a with host := a.host.handle.flow } told := h.go hflow rfl
  obtain ⟨hh, hf⟩ := foldl_report a.host.handle.flow.session.events
    { a with host := a.host.handle.flow.mapSession fun s => { s with events := [] } }
  have hs : a.poll.session = { a.host.handle.flow.session with events := [] } :=
    congrArg Host.session hh
  constructor
  · rw [hs, endedOf_nil, List.append_nil]
    exact hready.kept
  · rw [hs, endedOf_nil, List.append_nil]
    exact hready.ended
  · refine hf.trans ?_
    rw [tells, List.getLast?_append]
    cases (endedOf a.host.handle.flow.session.events).getLast? with
    | none => exact h.failed
    | some status => rfl

/-- After a poll there is nothing left to be told. -/
theorem events_poll (a : Attended E) : a.poll.session.events = [] := by
  obtain ⟨hh, -⟩ := foldl_report a.host.handle.flow.session.events
    { a with host := a.host.handle.flow.mapSession fun s => { s with events := [] } }
  exact congrArg (fun h => (Host.session h).events) hh

/-- **Every move keeps the operator informed.** -/
theorem Informed.make (h : a.Informed told) (m : Move) :
    (a.make m).Informed (told ++ endedOf (a.tells m)) := by
  cases m with
  | poll => exact h.poll
  | obey line =>
    rw [tells, endedOf_nil, List.append_nil]
    exact h.obey line
  | wait =>
    rw [tells, endedOf_nil, List.append_nil]
    exact h.wait
  | endInput =>
    rw [tells, endedOf_nil, List.append_nil]
    exact h.endInput

theorem Informed.run (h : a.Informed told) (moves : List Move) :
    (a.run moves).Informed (told ++ endedOf (a.heard moves)) := by
  induction moves generalizing a told with
  | nil => simpa [Attended.heard, Attended.run] using h
  | cons m moves ih =>
    have hrest := ih (h.make m)
    rw [List.append_assoc, ← endedOf_append] at hrest
    exact hrest

/-! ## Sessions that were started -/

/-- A session that was started is starting, and nothing was told of it. -/
theorem of_begin_eq_ok {engine : Engine E} {state : E} {clock : Option Timestamp → String}
    {arguments : RunArguments} {w : Workplace} {d : Disk}
    (h : begin engine state clock arguments w d = .ok a) :
    a.Informed [] ∧ a.session.phase = .starting ∧ a.isAbandoned = false := by
  unfold begin at h
  dsimp only at h
  split at h
  · cases h
  · split at h
    · cases h
    · cases h
    · next hstart =>
      cases h
      obtain ⟨hreports, hphase⟩ := Host.of_start_launched hstart
      replace hreports := (Host.reports_setMitm _ _).trans hreports
      refine ⟨⟨?_, ?_, rfl⟩, hphase, rfl⟩
      · exact hreports.kept.trans (congrArg List.getLast? hreports.told).symm
      · exact fun hp => absurd (hphase.symm.trans hp) nofun

/-- The exit code of a session that was not given up. -/
theorem code_finish (h : a.isAbandoned = false) :
    a.finish.1.code = 1 ↔ a.hasFailed = true := by
  unfold finish
  rw [h]
  cases a.hasFailed <;> simp

/-! ## An operator's session -/

/-- A session that is over, or for which there is no more time, was polled last. -/
def Polled (a b : Attended E) : Prop := b = a ∨ ∃ moves, b = a.run (moves ++ [.poll])

theorem Polled.trans {c : Attended E} (h : a.Polled b) (h' : b.Polled c) : a.Polled c := by
  obtain rfl | ⟨moves, rfl⟩ := h
  · exact h'
  · obtain rfl | ⟨more, rfl⟩ := h'
    · exact .inr ⟨moves, rfl⟩
    · exact .inr ⟨moves ++ [.poll] ++ more, by simp only [run_append]⟩

theorem polled_tick (a : Attended E) : a.Polled a.tick := .inr ⟨[.wait], rfl⟩

theorem polled_obeyAll (lines : List String) (a : Attended E) : a.Polled (a.obeyAll lines) := by
  unfold obeyAll
  induction lines generalizing a with
  | nil => exact .inl rfl
  | cons line lines ih =>
    rw [List.foldl_cons]
    refine Polled.trans ?_ (ih _)
    split
    · exact .inl rfl
    · exact .inr ⟨[.obey line], rfl⟩

theorem polled_linger (inputEnded : Bool) (n : Nat) (a : Attended E) :
    a.Polled (a.linger inputEnded n) := by
  induction n generalizing a with
  | zero => exact .inl rfl
  | succ n ih =>
    rw [linger]
    split
    · exact .inl rfl
    · refine Polled.trans ?_ (ih _)
      cases inputEnded with
      | true => exact .inr ⟨[.endInput, .wait], rfl⟩
      | false => exact a.polled_tick

theorem polled_attend (o : Operator) (n : Nat) (a : Attended E) : a.Polled (a.attend o n) := by
  induction n generalizing a with
  | zero => exact .inl rfl
  | succ n ih =>
    rw [attend]
    split
    · exact .inl rfl
    · split
      · exact (a.polled_obeyAll o.controls).trans (polled_linger o.closesInput n _)
      · exact a.polled_tick.trans (ih _)

/-- **The exit code of a session that has stopped.** Where a session was started and a poll finds
that it has stopped, a status was told; the last one that was told is the one that the session
keeps, and the exit code is 1 exactly if it asks for action. -/
theorem code_run {engine : Engine E} {state : E} {clock : Option Timestamp → String}
    {arguments : RunArguments} {w : Workplace} {d : Disk}
    (h : begin engine state clock arguments w d = .ok a) (moves : List Move)
    (hg : (a.run (moves ++ [.poll])).isAbandoned = false)
    (hp : (a.run (moves ++ [.poll])).session.phase = .stopped) :
    ∃ status, (endedOf (a.heard (moves ++ [.poll]))).getLast? = some status ∧
      (a.run (moves ++ [.poll])).session.lastStatus = some status ∧
      ((a.run (moves ++ [.poll])).finish.1.code = 1 ↔
        status.conditions.isActionable = true) := by
  obtain ⟨hinformed, -, -⟩ := of_begin_eq_ok h
  obtain ⟨hkept, hended, hfailed⟩ := hinformed.run (moves ++ [.poll])
  have hevents : (a.run (moves ++ [.poll])).session.events = [] := by
    rw [run_append]
    exact events_poll _
  rw [hevents, endedOf_nil, List.append_nil, List.nil_append] at hkept hended
  rw [List.nil_append] at hfailed
  have hs := List.getLast?_eq_some_getLast (hended hp)
  rw [hs] at hkept hfailed
  refine ⟨_, hs, hkept, ?_⟩
  rw [code_finish hg, hfailed]
  rfl

/-- An operator's session that is over has been polled last. -/
theorem attend_eq_run {engine : Engine E} {state : E} {clock : Option Timestamp → String}
    {arguments : RunArguments} {w : Workplace} {d : Disk}
    (h : begin engine state clock arguments w d = .ok a) (o : Operator) (n : Nat)
    (hover : (a.attend o n).isOver = true) : ∃ moves, a.attend o n = a.run (moves ++ [.poll]) := by
  obtain ⟨-, hphase, hg⟩ := of_begin_eq_ok h
  rcases a.polled_attend o n with heq | hmoves
  · rw [heq] at hover
    simp [isOver, hphase, hg] at hover
  · exact hmoves

end Attended

/-- **From what a start call returns to the exit code.** In every run, a session whose readiness was
fired before its start call returned tells the words of the status that the call returned after the
notice that logging stopped, and ends with that status. Any other tells, after the launch, of each
start that was refused for it and then the words of its final status, and ends with that. The
session keeps the status of the last end. The final status says why there was no readiness, the
words are those of four bits in their order, and no other bit changes them. Where an operator's
session has stopped, its exit code is 1 exactly if the status that it told last asks for action. -/
theorem status_reported {W E : Type} (store : ProfileStore W) (options : SessionOptions) (w : W)
    (actions : List Action) (s : Status) (engine : Engine E) (state : E)
    (clock : Option Timestamp → String) (arguments : RunArguments) (workplace : Workplace)
    (d : Disk) :
    (let c := (Scene.idle store options w).run actions
      let returned := (Scene.idle store options w).returned actions
      let refused := (Scene.idle store options w).refused actions
      let readied := (Scene.idle store options w).readied actions
      ∃ (sessions : List (List SessionEvent)) (last : List SessionEvent),
        c.events = sessions.flatten ++ last ∧ Opened c.session.phase last ∧
        (∀ generation status, (generation, status) ∈ returned →
          (∃ i l, generation = i + 1 ∧ sessions[i]? = some l ∧
            ((generation ∈ readied ∧ ∃ phase nickname before,
                l = before ++ loggingStopped :: closingEvents phase status ∧
                  .started nickname ∈ before ∧ loggingStopped ∉ before) ∨
              generation ∉ readied ∧ (∀ nickname, .started nickname ∉ l) ∧
                l = .changed .stopped .starting ::
                  (List.replicate (refused.count generation) busyEvent ++
                    closingEvents .starting (Session.finalStatus false status)))) ∨
            generation = sessions.length + 1 ∧ c.session.phase ≠ .stopped) ∧
        (∀ i l, sessions[i]? = some l →
          (∃ status, (i + 1, status) ∈ returned) ∨ l = abortedEvents) ∧
        c.session.lastStatus = (endedOf c.events).getLast?) ∧
    (Session.finalStatus false s =
        (if s.bits &&& 1 ≠ 0 ∨ s.bits &&& 8 ≠ 0 then s else ⟨s.bits ||| 0x8008⟩) ∧
      ((Session.finalStatus false s).conditions.createFailed = true ∨
        (Session.finalStatus false s).conditions.alreadyRunning = true) ∧
      s.conditions.messages =
        [((1 : UInt32), "proxy already started"), (2, "proxy exited"), (4, "proxy panicked"),
          (8, "proxy cannot be created")].filterMap (fun m =>
            if s.bits &&& m.1 ≠ 0 then some m.2 else none) ∧
      ∀ t : Status, s.bits &&& 15 = t.bits &&& 15 → s.conditions = t.conditions) ∧
    ∀ a, Attended.begin engine state clock arguments workplace d = .ok a →
      (∀ moves,
        let b := a.run (moves ++ [.poll])
        b.isAbandoned = false → b.session.phase = .stopped →
        ∃ status, (endedOf (a.heard (moves ++ [.poll]))).getLast? = some status ∧
          b.session.lastStatus = some status ∧
          (b.finish.1.code = 1 ↔ status.conditions.isActionable = true)) ∧
      ∀ o n, (a.attend o n).isOver = true → ∃ moves, a.attend o n = a.run (moves ++ [.poll]) := by
  refine ⟨?_, ⟨?_, ?_, ?_, ?_⟩, fun a h => ⟨?_, ?_⟩⟩
  · obtain ⟨sessions, last, hevents, hopened, htold, hcalled, hkept⟩ :=
      Scene.verdict_run store options w actions
    refine ⟨sessions, last, hevents, hopened, fun generation status hs => ?_, hcalled, hkept⟩
    rcases htold generation status hs with ⟨i, l, hi, hl, hcon⟩ | hlast
    · refine .inl ⟨i, l, hi, hl, ?_⟩
      rcases hcon.shape with ⟨hr, hshape⟩ | ⟨hr, hshape⟩
      · exact .inl ⟨of_decide_eq_true hr, hshape⟩
      · exact .inr ⟨of_decide_eq_false hr, hshape⟩
    · exact .inr hlast
  · simpa using Session.finalStatus_eq false s
  · exact Session.finalStatus_unready s
  · exact s.messages_eq
  · exact fun t => Status.conditions_congr
  · exact fun moves => Attended.code_run h moves
  · exact fun o n => Attended.attend_eq_run h o n

end ProxyControl
