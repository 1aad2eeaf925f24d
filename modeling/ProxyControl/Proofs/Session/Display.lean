import ProxyControl.Proofs.Log.Window
import ProxyControl.Proofs.Session.Desk

/-!
# What a session shows

A session keeps a display and a list of events, and nothing but one function adds a line to either:
it offers the line to the display and tells it as an event where the display has taken it. So the
display is a window on the lines of all events, those that the caller has learned and those to come,
and no operation of the controller and no message takes the two apart.

## Main definitions

* `linesOf`: the lines that events tell of
* `Session.Mirrors`: the display is the window on the lines that were told

## Main results

* `Session.Mirrors.of_told`: what is told and shown at once keeps the display so
* `Session.Mirrors.takeNext`, `Scene.mirrors_act`: so does every message, and every action
* `Scene.displayed_run`: the display after every run
-/

set_option autoImplicit false

namespace ProxyControl

/-! ## Lines of events -/

/-- The lines that events tell of. -/
def linesOf (events : List SessionEvent) : List LogLine :=
  events.filterMap fun
    | .line line => some line
    | _ => none

@[simp] theorem linesOf_nil : linesOf [] = [] := rfl

@[simp] theorem linesOf_append (l m : List SessionEvent) :
    linesOf (l ++ m) = linesOf l ++ linesOf m := List.filterMap_append

@[simp] theorem linesOf_line (line : LogLine) (l : List SessionEvent) :
    linesOf (.line line :: l) = line :: linesOf l := rfl

@[simp] theorem linesOf_changed (before after : Phase) (l : List SessionEvent) :
    linesOf (.changed before after :: l) = linesOf l := rfl

@[simp] theorem linesOf_started (nickname : String) (l : List SessionEvent) :
    linesOf (.started nickname :: l) = linesOf l := rfl

@[simp] theorem linesOf_ended (status : Status) (l : List SessionEvent) :
    linesOf (.ended status :: l) = linesOf l := rfl

@[simp] theorem linesOf_statusNotices (status : Status) :
    linesOf (statusNotices status) = status.conditions.messages.map .notice := by
  rw [linesOf, statusNotices, List.filterMap_map]
  exact congrFun List.filterMap_eq_map _

@[simp] theorem LogLine.counts_notice (text : String) : (LogLine.notice text).Counts := trivial

theorem LogBuffer.pushAll_window (requested : Nat) (lines more : List LogLine) :
    (window requested lines).pushAll more =
      window requested (lines ++ more.filter (·.Counts)) := by
  induction more generalizing lines with
  | nil => simp [pushAll]
  | cons line more ih =>
    rw [pushAll_cons, push_window, ih, List.append_assoc, ← List.filter_append,
      List.singleton_append]

/-! ## Sessions -/

namespace Session

/-- The display is the window on the lines that were told: those of the events before, and those of
the events that the caller did not learn yet. -/
def Mirrors (requested : Nat) (before : List SessionEvent) (s : Session) : Prop :=
  s.logs = .window requested (linesOf (before ++ s.events))

variable {requested : Nat} {before : List SessionEvent} {s s' : Session}

namespace Mirrors

theorem idle (options : SessionOptions) :
    (Session.idle options).Mirrors options.logCapacity [] := LogBuffer.window_nil.symm

/-- **What is told and shown at once** keeps the display a window on what was told. -/
theorem of_told (h : s.Mirrors requested before) (told : List SessionEvent)
    (he : s'.events = s.events ++ told) (hl : s'.logs = s.logs.pushAll (linesOf told))
    (hc : ∀ line ∈ linesOf told, line.Counts) : s'.Mirrors requested before := by
  have hkept : (linesOf told).filter (·.Counts) = linesOf told :=
    List.filter_eq_self.2 fun line hline => decide_eq_true (hc line hline)
  have hlines : linesOf (before ++ s'.events) = linesOf (before ++ s.events) ++ linesOf told := by
    rw [he, ← List.append_assoc, linesOf_append]
  rw [Mirrors, hl, h, LogBuffer.pushAll_window, hkept, hlines]

/-- Where no line is told, none is shown. -/
theorem of_quiet (h : s.Mirrors requested before) {told : List SessionEvent}
    (he : s'.events = s.events ++ told) (ht : linesOf told = []) (hl : s'.logs = s.logs) :
    s'.Mirrors requested before := by
  refine h.of_told told he ?_ ?_
  · rw [ht]
    exact hl
  · rw [ht]
    exact nofun

theorem congr (h : s.Mirrors requested before) (he : s'.events = s.events)
    (hl : s'.logs = s.logs) : s'.Mirrors requested before :=
  h.of_quiet (he.trans (List.append_nil _).symm) rfl hl

/-! ### Calls -/

theorem notifyStatus (h : s.Mirrors requested before) (status : Status) :
    (s.notifyStatus status).Mirrors requested before := by
  rw [notifyStatus_eq]
  refine h.of_told _ rfl ?_ ?_
  · rw [linesOf_statusNotices]
  · simp

theorem launch (h : s.Mirrors requested before) (p : Profile) (threadError : Option IoError) :
    (s.launch p threadError).2.Mirrors requested before := by
  cases threadError with
  | none =>
    rw [launch_none_eq]
    exact h.of_quiet rfl rfl rfl
  | some e =>
    rw [launch_some_eq]
    exact h.of_quiet rfl rfl rfl

theorem stop (h : s.Mirrors requested before) : s.stop.2.Mirrors requested before := by
  by_cases hp : s.phase = .running
  · rw [stop_eq hp]
    exact h.of_quiet rfl rfl rfl
  · rw [stop_of_ne hp]
    exact h

theorem switchMode (h : s.Mirrors requested before) (mode : Mode) :
    (s.switchMode mode).2.Mirrors requested before := by
  unfold Session.switchMode
  dsimp only
  split <;> exact h.congr rfl rfl

theorem setMitm (h : s.Mirrors requested before) (on : Bool) :
    (s.setMitm on).2.Mirrors requested before := by
  unfold Session.setMitm
  dsimp only
  split <;> exact h.congr rfl rfl

/-! ### Messages -/

theorem onReady (h : s.Mirrors requested before) (name : String) (generation : Nat) :
    (s.onReady name generation).Mirrors requested before := by
  by_cases hs : generation = s.generation ∧ s.phase = .starting
  · rw [onReady_eq name hs.1 hs.2]
    refine h.of_told _ rfl rfl ?_
    simp
  · rw [onReady_of_not name hs]
    exact h

/-- A line that the display does not take is not told either. -/
theorem append (h : s.Mirrors requested before) (line : LogLine) :
    (s.append line).Mirrors requested before := by
  rw [append_eq]
  by_cases hs : line.isShown = true
  · refine h.of_told [.line line] ?_ rfl ?_
    · simp [hs]
    · simpa using LogLine.isShown_iff.1 hs
  · refine h.congr ?_ ?_
    · simp [hs]
    · simp [LogBuffer.push, hs]

theorem finish (h : s.Mirrors requested before) (status : Status) :
    (s.finish status).Mirrors requested before := by
  rw [finish_eq]
  refine h.of_told _ (List.append_assoc ..) ?_ ?_
  · simp
  · simp

theorem conclude (h : s.Mirrors requested before) (status : Status) :
    (s.conclude status).Mirrors requested before := by
  rw [conclude_eq]
  refine h.of_told _ (List.append_assoc ..) ?_ ?_
  · simp [LogBuffer.pushAll_cons]
  · simp

theorem handleOne (h : s.Mirrors requested before) (name : String) (m : Message) :
    (s.handleOne name m).Mirrors requested before := by
  cases m with
  | ready generation => exact h.onReady name generation
  | log generation record =>
    rw [Session.handleOne, onLog]
    split
    · exact h.append _
    · exact h
  | exited generation status =>
    rw [Session.handleOne]
    split
    · have hlive : { s with live := none }.Mirrors requested before := h.congr rfl rfl
      exact hlive.finish status
    · exact h

/-- **A message that is taken** keeps the display a window on what was told. -/
theorem takeNext (h : s.Mirrors requested before) (name : String) (stage : Stage) :
    (s.takeNext name stage).2.Mirrors requested before := by
  rcases s.takeNext_cases name stage with ⟨-, -, hp⟩ | ⟨status, -, -, hp⟩ |
    ⟨status, rest, -, -, -, hp⟩ | ⟨m, rest, -, -, hp⟩ <;> rw [hp]
  · exact h
  · exact h.conclude status
  · rw [closeStream_eq]
    exact h.congr rfl rfl
  · have hrest : { s with queue := rest }.Mirrors requested before := h.congr rfl rfl
    exact hrest.handleOne name m

end Mirrors

end Session

theorem Controller.mirrors_start {W : Type} {requested : Nat} {before : List SessionEvent}
    {c : Controller W} (h : c.session.Mirrors requested before) (p : Profile)
    (mode : Option Mode) (threadError : Option IoError) (w : W) :
    (c.start p mode threadError w).2.1.session.Mirrors requested before := by
  unfold Controller.start
  split
  · exact h
  · split
    · exact h.notifyStatus _
    · -- the mode is kept before the start call is made
      let s := { c.session with pendingMode := mode.getD c.session.pendingMode }
      have hmode : s.Mirrors requested before := h.congr rfl rfl
      exact hmode.launch p threadError

/-! ## Scenes -/

namespace Scene

variable {W : Type} {c : Scene W} {requested : Nat}

/-- The display is the window on the lines of all events. -/
def Mirrors (requested : Nat) (c : Scene W) : Prop := c.session.Mirrors requested c.history

theorem Mirrors.settle (h : c.Mirrors requested) : c.settle.Mirrors requested := by
  have hhistory : c.settle.history = c.history := history_foldl_perform _ _
  rw [Mirrors, session_settle, hhistory]
  exact Session.Mirrors.congr h rfl rfl

theorem Mirrors.withSession {s : Session} (h : s.Mirrors requested c.history) :
    (c.withSession s).settle.Mirrors requested := Mirrors.settle (c := c.withSession s) h

theorem mirrors_proceed (h : c.Mirrors requested) (name : String) (errand : Errand)
    (stage : Stage) : (c.proceed name errand stage).Mirrors requested := by
  unfold proceed
  split
  · cases errand with
    | polling =>
      have hevents : linesOf (c.events ++ []) = linesOf (c.history ++ c.session.events) := by
        rw [List.append_nil, events]
      exact Eq.trans h (congrArg (LogBuffer.window requested) hevents.symm)
    | waiting target =>
      dsimp only
      split
      · exact h
      · exact h
  · split
    · exact h
    · exact Mirrors.settle (Session.Mirrors.takeNext h name stage)

/-- **Every action** keeps the display a window on the lines of all events. -/
theorem mirrors_act (h : c.Mirrors requested) (a : Action) : (c.act a).Mirrors requested := by
  cases a with
  | start profile mode threadError =>
    rw [act]
    split
    · exact Mirrors.settle (Controller.mirrors_start h profile mode threadError c.world)
    · exact h
  | stop =>
    rw [act]
    split
    · exact Mirrors.withSession (Session.Mirrors.stop h)
    · exact h
  | switchMode mode =>
    rw [act]
    split
    · exact Mirrors.withSession (Session.Mirrors.switchMode h mode)
    · exact h
  | setMitm on =>
    rw [act]
    split
    · exact Mirrors.withSession (Session.Mirrors.setMitm h on)
    · exact h
  | proceed name =>
    rw [act]
    split
    · exact h
    · next errand stage _ => exact mirrors_proceed h name errand stage
  | call errand => rw [act]; split <;> exact h
  | timeOut => rw [act]; split <;> exact h
  | fire generation =>
    rw [act]
    split
    · exact Session.Mirrors.congr h rfl rfl
    · exact h
  | giveBack generation status =>
    rw [act]
    split
    · exact Session.Mirrors.congr h rfl rfl
    · exact h
  | advance index answers =>
    rw [act]
    split
    · exact h
    · simp only [foldl_enqueue_eq]
      exact Session.Mirrors.congr h rfl rfl

theorem mirrors_run (h : c.Mirrors requested) (actions : List Action) :
    (c.run actions).Mirrors requested := by
  induction actions generalizing c with
  | nil => exact h
  | cons a actions ih => exact ih (mirrors_act h a)

/-- **The display.** After any calls a display holds the latest of the lines that count among those
that were offered since it was cleared, as many as it was made for and at least one, and it takes
one more line exactly if that counts. So after every run the display of a controller holds the
latest of the lines that were ever told by events, those that the caller did not learn yet among
them. -/
theorem displayed_run :
    (∀ (requested : Nat) (calls : List BufferCall),
      let display := (LogBuffer.ofCapacity requested).afterCalls calls
      display.lines = ((linesSinceClear calls).filter (·.Counts)).rtake (max requested 1) ∧
        ∀ line, (display.push line).2 = true ↔ line.Counts) ∧
    ∀ (store : ProfileStore W) (options : SessionOptions) (w : W) (actions : List Action),
      let c := (idle store options w).run actions
      c.session.logs.lines = (linesOf c.events).rtake (max options.logCapacity 1) := by
  constructor
  · intro requested calls display
    have hdisplay : display = LogBuffer.window requested _ :=
      LogBuffer.afterCalls_ofCapacity requested calls
    refine ⟨congrArg LogBuffer.lines hdisplay, fun line => ?_⟩
    rw [hdisplay, LogBuffer.push_window, decide_eq_true_iff]
  · intro store options w actions c
    have hstart : (idle store options w).Mirrors options.logCapacity :=
      Session.Mirrors.idle options
    exact congrArg LogBuffer.lines (mirrors_run hstart actions)

end Scene

end ProxyControl
