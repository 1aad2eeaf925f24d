import ProxyControl.Session.Controller

/-!
# What a session tells

A session tells its caller of each line that it shows, of each change of its phase, and of the start
and the end of the engine. Each operation is stated here as one equation: which fields it changes,
which lines it shows and which events it adds to those before.

## Main definitions

* `statusNotices`: the events of the notices of a status
* `LogBuffer.pushAll`: a buffer after some lines were offered

## Main results

* `Session.append_eq`, `Session.notify_eq`, `Session.notifyStatus_eq`: what a line does
* `Session.onReady_eq`, `Session.finish_eq`: what readiness and the end of a session do
-/

set_option autoImplicit false

namespace ProxyControl

/-- The events of the notices of a status. -/
def statusNotices (status : Status) : List SessionEvent :=
  status.conditions.messages.map fun text => .line (.notice text)

/-- The buffer after some lines were offered. -/
def LogBuffer.pushAll (b : LogBuffer) (lines : List LogLine) : LogBuffer :=
  lines.foldl (fun b line => (b.push line).1) b

theorem LogBuffer.pushAll_cons (b : LogBuffer) (line : LogLine) (lines : List LogLine) :
    b.pushAll (line :: lines) = (b.push line).1.pushAll lines := rfl

namespace Session

/-- A line that is worth showing is shown and told, and any other one changes nothing. -/
theorem append_eq (line : LogLine) (s : Session) :
    s.append line = { s with
      logs := (s.logs.push line).1
      events := s.events ++ if line.isShown then [.line line] else [] } := by
  unfold append LogBuffer.push
  by_cases h : line.isShown = true
  · simp only [h, if_true]
    rfl
  · simp [h]

theorem notify_eq (text : String) (s : Session) :
    s.notify text = { s with
      logs := (s.logs.push (.notice text)).1
      events := s.events ++ [.line (.notice text)] } := by
  rw [notify, append_eq]
  rfl

theorem foldl_notify_eq (texts : List String) (s : Session) :
    texts.foldl (fun s text => s.notify text) s = { s with
      logs := s.logs.pushAll (texts.map .notice)
      events := s.events ++ texts.map fun text => .line (.notice text) } := by
  induction texts generalizing s with
  | nil => simp [LogBuffer.pushAll]
  | cons text texts ih =>
    rw [List.foldl_cons, ih, notify_eq]
    simp [LogBuffer.pushAll_cons]

theorem notifyStatus_eq (status : Status) (s : Session) :
    s.notifyStatus status = { s with
      logs := s.logs.pushAll (status.conditions.messages.map .notice)
      events := s.events ++ statusNotices status } :=
  foldl_notify_eq _ s

/-- Readiness of a session that is starting. -/
theorem onReady_eq (name : String) {generation : Nat} {s : Session} (hg : generation = s.generation)
    (hp : s.phase = .starting) :
    s.onReady name generation =
      let nickname := String.ofList (name.toList.take maxNicknameLength)
      { s with
        phase := .running
        readySeen := true
        nickname := some nickname
        holdsStream := true
        live := some generation
        logs := (s.logs.push (.notice (startedNotice nickname))).1
        events := s.events ++ [.changed .starting .running,
          .line (.notice (startedNotice nickname)), .started nickname]
        requests := s.requests ++ [.openStream generation, .switchMode s.pendingMode.constant] ++
          if s.pendingMitm then [.delayMitm generation] else [] } := by
  unfold onReady
  rw [if_neg (by simp [hg, hp])]
  simp only [moveTo, emit, notify_eq, request, hp]
  by_cases hm : s.pendingMitm = true
  · simp [hm]
  · simp [hm]

/-- Readiness that is out of place. -/
theorem onReady_of_not (name : String) {generation : Nat} {s : Session}
    (h : ¬(generation = s.generation ∧ s.phase = .starting)) : s.onReady name generation = s :=
  if_pos (Decidable.not_and_iff_or_not.1 h)

/-- The end of a session: the notices of its final status, the change to stopped, and the end. -/
theorem finish_eq (status : Status) (s : Session) :
    s.finish status =
      let status := finalStatus s.readySeen status
      { s with
        phase := .stopped
        nickname := none
        lastStatus := some status
        holdsThread := false
        logs := s.logs.pushAll (status.conditions.messages.map .notice)
        events := s.events ++ statusNotices status ++
          [.changed s.phase .stopped, .ended status] } := by
  unfold finish
  simp only [notifyStatus_eq, moveTo, emit, List.append_assoc, List.cons_append, List.nil_append]

theorem conclude_eq (status : Status) (s : Session) :
    s.conclude status =
      let status := finalStatus s.readySeen status
      { s with
        phase := .stopped
        nickname := none
        lastStatus := some status
        holdsThread := false
        logs := (s.logs.push (.notice "logging stopped")).1.pushAll
          (status.conditions.messages.map .notice)
        events := s.events ++ .line (.notice "logging stopped") :: statusNotices status ++
          [.changed s.phase .stopped, .ended status] } := by
  unfold conclude
  rw [finish_eq, notify_eq]
  simp

theorem closeStream_eq (s : Session) :
    s.closeStream = { s with
      live := none
      holdsStream := false
      requests := s.requests ++ [.stopStream, .joinStream] } := by
  simp [closeStream, request]

theorem onLog_eq {generation : Nat} {s : Session} (h : generation = s.generation)
    (record : LogRecord) : s.onLog generation record = s.append (.ofRecord record) := if_pos h

/-- A start call made. -/
theorem launch_none_eq (p : Profile) (s : Session) :
    (s.launch p none).2 = { s with
      phase := .starting
      generation := s.generation + 1
      readySeen := false
      nickname := none
      holdsThread := true
      events := s.events ++ [.changed s.phase .starting]
      requests := s.requests ++ [.launch (s.generation + 1) (s.startParams p)] } := rfl

/-- A start call whose thread cannot be created. -/
theorem launch_some_eq (p : Profile) (e : IoError) (s : Session) :
    (s.launch p (some e)).2 = { s with
      phase := .stopped
      generation := s.generation + 1
      readySeen := false
      nickname := none
      events := s.events ++ [.changed s.phase .starting, .changed .starting .stopped] } := by
  simp [launch, moveTo, emit]

theorem stop_eq {s : Session} (h : s.phase = .running) :
    s.stop.2 = { s with
      phase := .stopping
      live := none
      events := s.events ++ [.changed .running .stopping]
      requests := s.requests ++ .stopEngine :: if s.holdsStream then [.stopStream] else [] } := by
  cases hs : s.holdsStream <;> simp [stop, h, hs, moveTo, emit, request]

theorem stop_of_ne {s : Session} (h : s.phase ≠ .running) : s.stop.2 = s := by
  rw [stop, if_pos h]

end Session

end ProxyControl
