import ProxyControl.Engine.Child
import ProxyControl.Proofs.Log.Conservation
import Mathlib.Logic.Function.Basic

/-!
# The way of a child's output

The lines that a child process writes go through pipes, whose readers push them as records, to the
engine's log, from which a log stream takes them. The child, its two readers, the start call and the
log stream are put together here so that their steps may come in any order. Nobody asks anything to
stop, and the readers come to their end before the start call returns.

No record is repeated or moved on the way, and what the stream hands on is what had been pushed when
it was last told how many records there are. It is told so only while the engine is marked running,
and the start call takes that mark away before it waits for the readers. So nothing of what the
readers push in the time that they are given for it is ever handed on, nor what they pushed shortly
before, and a stream that runs until the log is closed can miss the last words of a child.

## Main definitions

* `Outflow`: a child, the readers of its pipes, its start call and the log stream
* `Outflow.act`, `Outflow.run`: what may happen, and what it leads to

## Main results

* `Outflow.Flows.act`: what every step keeps
* `Outflow.received_run`: what is handed on, and what is not
* `Outflow.undelivered_crash`: a child whose only line is lost
-/

set_option autoImplicit false

namespace ProxyControl

namespace StreamPoint

/-- How many records of the round under way were not handed on yet. -/
def remaining : StreamPoint → Nat
  | .reading _ index length | .offering _ index length _ => length - index
  | .checking _ | .asking _ | .trimming _ _ | .leaving _ _ | .pausing _ _ | .ended _ => 0

theorem remaining_of_isEnded {point : StreamPoint} (h : point.isEnded = true) :
    point.remaining = 0 := by
  cases point <;> first | rfl | cases h

theorem InBounds.remaining_le {held : HeldLog} {point : StreamPoint} (h : point.InBounds held) :
    point.remaining ≤ (held.drop point.ahead).length := by
  rw [List.length_drop]
  cases point <;> simp only [InBounds, remaining, ahead] at h ⊢ <;> omega

end StreamPoint

/-- How far a start call is whose child was created. -/
inductive StartCall where
  /-- It looks for the exit of the child. -/
  | serving
  /-- It has noticed the exit and waits for the readers. A stop had taken effect, or not. -/
  | draining (stopRequested : Bool)
  | returned (status : Status)
  deriving DecidableEq, Repr

/-- A child process, the readers of its pipes, its start call and the log stream. -/
structure Outflow where
  engine : ProcessEngine
  /-- The child's exit code, or that a signal ended it, once it has exited. -/
  exit : Option (Option Nat)
  /-- The lines that the child wrote to each pipe. -/
  written : OutputPipe → List (List UInt8)
  /-- Those of them that were not read yet. -/
  unread : OutputPipe → List (List UInt8)
  /-- The records that the readers pushed, with the pipes that they came from. -/
  pushed : List (OutputPipe × LogEntry)
  call : StartCall
  /-- Where the log stream is. -/
  point : StreamPoint
  /-- The records that the log stream handed on. -/
  received : List LogRecord
  /-- How many records had been pushed when the log stream was last told how many there are. -/
  told : Nat

namespace Outflow

/-- A child that was just created, after some earlier ones of the same engine. -/
def launched (earlier : Nat) (name : String) : Outflow where
  engine := ⟨earlier + 1, true, true, false, name, []⟩
  exit := none
  written _ := []
  unread _ := []
  pushed := []
  call := .serving
  point := .initial
  received := []
  told := 0

/-- What the log stream calls: the engine, nobody who asks it to stop, and a consumer that takes all
records. -/
def host : StreamHost Outflow where
  stopRequested w := (false, w)
  length w :=
    (w.engine.logLength, if w.engine.running then { w with told := w.pushed.length } else w)
  read index w := (HeldLog.read w.engine.logs index, w)
  deleteSince index w :=
    { w with engine := { w.engine with logs := w.engine.logs.dropThrough index } }
  offer record w := (true, { w with received := w.received ++ [record] })

/-- The log stream makes a step; it makes at most one call. -/
def step (slices : Nat) (w : Outflow) : Outflow :=
  let (point, w) := w.point.step host slices w
  { w with point := point }

/-- Whether the readers have come to the end of the child's output. -/
def isDrained (w : Outflow) : Bool :=
  w.exit.isSome && (w.unread .out).isEmpty && (w.unread .err).isEmpty

/-- What may happen. -/
inductive Action where
  /-- The child writes a line. -/
  | write (pipe : OutputPipe) (line : List UInt8)
  /-- The child exits with a code, or by a signal. -/
  | exit (code : Option Nat)
  /-- The reader of a pipe pushes the next line, with a stamp. -/
  | push (pipe : OutputPipe) (stamp : Nat)
  /-- The start call notices the exit, and the engine is marked not running. -/
  | notice
  /-- The start call returns after the readers. -/
  | giveBack
  /-- The log stream makes a step; it looks so often for a request to stop in a pause. -/
  | advance (slices : Nat)

/-- What an action leads to; one that cannot happen changes nothing. -/
def act (w : Outflow) : Action → Outflow
  | .write pipe line =>
    if w.exit = none then
      { w with
        written := Function.update w.written pipe (w.written pipe ++ [line])
        unread := Function.update w.unread pipe (w.unread pipe ++ [line]) }
    else w
  | .exit code => if w.exit = none then { w with exit := some code } else w
  | .push pipe stamp =>
    match w.unread pipe with
    | [] => w
    | line :: rest =>
      let entry := ⟨stamp, lineText line⟩
      { w with
        engine := w.engine.push w.engine.launches entry
        unread := Function.update w.unread pipe rest
        pushed := w.pushed ++ [(pipe, entry)] }
  | .notice =>
    match w.exit, w.call with
    | some _, .serving =>
      let (stopRequested, engine) := w.engine.recordExit
      { w with engine := engine, call := .draining stopRequested }
    | _, _ => w
  | .giveBack =>
    match w.exit, w.call with
    | some code, .draining stopRequested =>
      if w.isDrained then { w with call := .returned (exitStatus code stopRequested) } else w
    | _, _ => w
  | .advance slices => w.step slices

/-- What a list of actions leads to. -/
def run (w : Outflow) (actions : List Action) : Outflow := actions.foldl act w

/-- The entries of the records that the readers pushed. -/
def entries (w : Outflow) : List LogEntry := w.pushed.map (·.2)

/-- The texts of the lines of a pipe that were pushed. -/
def textsOf (pipe : OutputPipe) (w : Outflow) : List String :=
  (w.pushed.filter (·.1 = pipe)).map (·.2.text)

/-- What every step keeps. -/
structure Flows (w : Outflow) : Prop where
  /-- What was handed on and what is to be handed on yet is all that was pushed. -/
  balance : w.received.map (·.entry) ++ w.engine.logs.drop w.point.ahead = w.entries
  inBounds : w.point.InBounds w.engine.logs
  count : w.point.handedOn = w.received.length
  numbered : w.received.map (·.seq) = List.range w.received.length
  /-- The round under way is over what the stream was told of. -/
  settled : w.received.length + w.point.remaining = w.told
  /-- Each reader pushes what the child wrote, in order. -/
  sources : ∀ pipe, w.textsOf pipe ++ (w.unread pipe).map lineText = (w.written pipe).map lineText
  running : w.engine.running = true ↔ w.call = .serving
  /-- A start call returns after the readers. -/
  drained : ∀ status, w.call = .returned status → w.isDrained = true

theorem flows_launched (earlier : Nat) (name : String) : (launched earlier name).Flows where
  balance := rfl
  inBounds := trivial
  count := rfl
  numbered := rfl
  settled := rfl
  sources _ := rfl
  running := by simp [launched]
  drained := by simp [launched]

namespace Flows

variable {w : Outflow}

theorem told_le (h : w.Flows) : w.told ≤ w.pushed.length := by
  have hlen := congrArg List.length h.balance
  have hrem := h.inBounds.remaining_le
  rw [List.length_append, List.length_map, entries, List.length_map] at hlen
  have hsettled := h.settled
  omega

/-- A stream that has ended has handed on what it was told of. -/
theorem received_of_isEnded (h : w.Flows) (he : w.point.isEnded = true) :
    w.received.map (·.entry) = w.entries.take w.told := by
  have hb := h.balance
  have hset := h.settled
  rw [StreamPoint.ahead_of_isEnded he, List.drop_zero] at hb
  rw [StreamPoint.remaining_of_isEnded he, Nat.add_zero] at hset
  rw [← hb, ← hset, List.take_left' (List.length_map ..)]

theorem unread_of_returned (h : w.Flows) {status : Status} (hs : w.call = .returned status)
    (pipe : OutputPipe) : w.unread pipe = [] := by
  have hdrained := h.drained status hs
  rw [isDrained, Bool.and_eq_true, Bool.and_eq_true, List.isEmpty_iff, List.isEmpty_iff] at hdrained
  obtain ⟨⟨-, hout⟩, herr⟩ := hdrained
  cases pipe
  · exact hout
  · exact herr

/-- A step of the log stream that neither hands on nor drops a record. -/
theorem move (h : w.Flows) (next : StreamPoint) (ha : next.ahead = w.point.ahead)
    (hs : next.handedOn = w.point.handedOn) (hr : next.remaining = w.point.remaining)
    (hi : next.InBounds w.engine.logs) : Flows { w with point := next } := by
  have hb := h.balance
  have hset := h.settled
  rw [← ha] at hb
  rw [← hr] at hset
  exact { h with
    balance := hb
    inBounds := hi
    count := hs.trans h.count
    settled := hset }

/-- The log stream ends where the log is closed, and else its round is over all records that were
pushed and not handed on. -/
theorem ask (h : w.Flows) {seq : Nat} (hp : w.point = .asking seq) (slices : Nat) :
    (w.step slices).Flows := by
  unfold step
  rw [hp]
  simp only [StreamPoint.step, host, ProcessEngine.logLength]
  have hcount : w.received.length + w.engine.logs.length = w.pushed.length := by
    have hlen := congrArg List.length h.balance
    simpa [hp, StreamPoint.ahead, entries] using hlen
  by_cases hrun : w.engine.running = true
  · rw [if_pos hrun, if_pos hrun]
    have hb := h.balance
    have hc := h.count
    rw [hp] at hb hc
    cases hl : w.engine.logs.length with
    | zero =>
      have hset : w.received.length + 0 = w.pushed.length := by rw [← hl, hcount]
      exact { h with balance := hb, inBounds := trivial, count := hc, settled := hset }
    | succ n =>
      have hset : w.received.length + (n + 1) = w.pushed.length := by rw [← hl, hcount]
      exact { h with
        balance := hb
        inBounds := ⟨Nat.succ_pos n, Nat.le_of_eq hl.symm⟩
        count := hc
        settled := hset }
  · rw [if_neg hrun, if_neg hrun]
    exact h.move _ (by rw [hp]; rfl) (by rw [hp]; rfl) (by rw [hp]; rfl) trivial

/-- A record that is handed on is the first one beyond those handed on, and gets the next number. -/
theorem offer (h : w.Flows) {seq index length : Nat} {entry : LogEntry}
    (hp : w.point = .offering seq index length entry) (next : StreamPoint)
    (ha : next.ahead = index + 1) (hn : next.handedOn = seq + 1)
    (hr : next.remaining = length - (index + 1)) (hi : next.InBounds w.engine.logs) :
    Flows { (host.offer ⟨seq, entry⟩ w).2 with point := next } := by
  have hb := h.balance
  have hc := h.count
  have hset := h.settled
  have hin := h.inBounds
  rw [hp] at hb hc hset hin
  obtain ⟨hlt, hle, he⟩ := hin
  rw [StreamPoint.handedOn] at hc
  rw [StreamPoint.remaining] at hset
  refine { h with
    balance := ?_
    inBounds := hi
    count := ?_
    numbered := ?_
    settled := ?_ }
  · rw [StreamPoint.ahead,
      ← List.getElem_cons_drop (by omega : index < w.engine.logs.length)] at hb
    rw [List.getElem?_eq_getElem (by omega), Option.some.injEq] at he
    rw [he] at hb
    simpa [host, ha, entries] using hb
  · simp [hn, host, hc]
  · simp [host, h.numbered, hc, List.range_succ]
  · simp only [host, hr, List.length_append, List.length_singleton]
    omega

/-- What was handed on in a round is dropped at its end. -/
theorem drop (h : w.Flows) {index : Nat} (ha : w.point.ahead = index + 1)
    (hr : w.point.remaining = 0) (next : StreamPoint) (hn : next.ahead = 0)
    (hi : ∀ held, next.InBounds held) (hs : next.handedOn = w.point.handedOn)
    (hm : next.remaining = 0) : Flows { host.deleteSince index w with point := next } := by
  have hb := h.balance
  have hset := h.settled
  have hle := h.inBounds.ahead_le
  rw [ha] at hb hle
  rw [hr, ← hm] at hset
  have hdrop := HeldLog.dropThrough_of_lt (by omega : index < w.engine.logs.length)
  exact { h with
    balance := by
      rw [hn, List.drop_zero]
      simpa [host, hdrop, entries] using hb
    inBounds := hi _
    count := hs.trans h.count
    settled := hset }

/-- A step of the log stream: the cases are the points of its loop. -/
theorem step (h : w.Flows) (slices : Nat) : (w.step slices).Flows := by
  have hin := h.inBounds
  unfold Outflow.step
  cases hp : w.point with
  | checking seq =>
    exact h.move (.asking seq) (by rw [hp]; rfl) (by rw [hp]; rfl) (by rw [hp]; rfl) trivial
  | asking seq =>
    have hask := h.ask hp slices
    unfold Outflow.step at hask
    rwa [hp] at hask
  | reading seq index length =>
    rw [hp] at hin
    obtain ⟨hlt, hle⟩ := hin
    have hread : w.engine.logs[index]? = some (HeldLog.read w.engine.logs index) := by
      rw [HeldLog.read, List.getElem?_eq_getElem (by omega), Option.getD_some]
    exact h.move (.offering seq index length _) (by rw [hp]; rfl) (by rw [hp]; rfl)
      (by rw [hp]; rfl) ⟨hlt, hle, hread⟩
  | offering seq index length entry =>
    rw [hp] at hin
    obtain ⟨hlt, hle, -⟩ := hin
    change Flows { (host.offer ⟨seq, entry⟩ w).2 with
      point := if index + 1 < length then .reading (seq + 1) (index + 1) length
        else .trimming (seq + 1) index }
    split
    · next hmore => exact h.offer hp _ rfl rfl rfl ⟨hmore, hle⟩
    · next hlast =>
      have hrem : (StreamPoint.trimming (seq + 1) index).remaining = length - (index + 1) := by
        rw [StreamPoint.remaining]
        omega
      exact h.offer hp _ rfl rfl hrem (by rw [StreamPoint.InBounds]; omega)
  | trimming seq index =>
    exact h.drop (by rw [hp]; rfl) (by rw [hp]; rfl) (.pausing seq slices) rfl (fun _ => trivial)
      (by rw [hp]; rfl) rfl
  | leaving seq index =>
    exact h.drop (by rw [hp]; rfl) (by rw [hp]; rfl) (.ended seq) rfl (fun _ => trivial)
      (by rw [hp]; rfl) rfl
  | pausing seq left =>
    cases left with
    | zero =>
      exact h.move (.checking seq) (by rw [hp]; rfl) (by rw [hp]; rfl) (by rw [hp]; rfl) trivial
    | succ left =>
      exact h.move (.pausing seq left) (by rw [hp]; rfl) (by rw [hp]; rfl) (by rw [hp]; rfl) trivial
  | ended seq =>
    exact h.move (.ended seq) (by rw [hp]) (by rw [hp]) (by rw [hp]) trivial

/-- A line of the child goes to the end of what its pipe holds. -/
theorem write (h : w.Flows) (pipe : OutputPipe) (line : List UInt8) :
    (w.act (.write pipe line)).Flows := by
  by_cases hexit : w.exit = none
  · rw [Outflow.act, if_pos hexit]
    refine { h with
      sources := fun other => ?_
      drained := fun status hs => ?_ }
    · have hsource := h.sources other
      by_cases hother : other = pipe
      · subst hother
        simp only [Function.update_self, List.map_append, ← hsource, List.append_assoc]
        rfl
      · simp only [Function.update_of_ne hother]
        exact hsource
    · -- the call has not returned, as the child is there
      have hdrained := h.drained status hs
      simp [isDrained, hexit] at hdrained
  · rw [Outflow.act, if_neg hexit]
    exact h

/-- A reader takes the first line that its pipe holds, and its record is the last one. -/
theorem push (h : w.Flows) (pipe : OutputPipe) (stamp : Nat) :
    (w.act (.push pipe stamp)).Flows := by
  rw [Outflow.act]
  split
  · exact h
  · next line rest hunread =>
    have hpush : ∀ entry, w.engine.push w.engine.launches entry =
        { w.engine with logs := w.engine.logs ++ [entry] } :=
      fun entry => by simp [ProcessEngine.push]
    simp only [hpush]
    refine { h with
      balance := ?_
      inBounds := h.inBounds.append _
      sources := fun other => ?_
      drained := fun status hs => ?_ }
    · have hb := h.balance
      simp only [entries, List.map_append, List.map_cons, List.map_nil] at hb ⊢
      rw [List.drop_append_of_le_length h.inBounds.ahead_le, ← List.append_assoc, hb]
    · have hsource := h.sources other
      by_cases hother : other = pipe
      · subst hother
        simpa [textsOf, hunread] using hsource
      · simpa [textsOf, Function.update_of_ne hother, Ne.symm hother] using hsource
    · -- the call has not returned, as there is a line to be read
      have hdrained := h.drained status hs
      cases pipe <;> simp [isDrained, hunread] at hdrained

theorem act (h : w.Flows) (action : Action) : (w.act action).Flows := by
  cases action with
  | write pipe line => exact h.write pipe line
  | push pipe stamp => exact h.push pipe stamp
  | advance slices => exact h.step slices
  | exit code =>
    by_cases hexit : w.exit = none
    · rw [Outflow.act, if_pos hexit]
      refine { h with drained := fun status hs => ?_ }
      have hdrained := h.drained status hs
      simp [isDrained, hexit] at hdrained
    · rw [Outflow.act, if_neg hexit]
      exact h
  | notice =>
    rw [Outflow.act]
    split
    · exact { h with
        running := by simp [ProcessEngine.recordExit]
        drained := nofun }
    · exact h
  | giveBack =>
    rw [Outflow.act]
    split
    · next code stopRequested hexit hcall =>
      by_cases hdrained : w.isDrained = true
      · rw [if_pos hdrained]
        have hrunning := h.running
        rw [hcall] at hrunning
        exact { h with
          running := by simpa using hrunning
          drained := fun _ _ => hdrained }
      · rw [if_neg hdrained]
        exact h
    · exact h

theorem run (h : w.Flows) (actions : List Action) : (w.run actions).Flows := by
  induction actions generalizing w with
  | nil => exact h
  | cons action rest ih => exact ih (h.act action)

end Flows

/-- Once the start call has noticed the exit, the stream is not told of more records. -/
theorem told_act {w : Outflow} (h : w.Flows) (hcall : w.call ≠ .serving) (action : Action) :
    (w.act action).told = w.told ∧ (w.act action).call ≠ .serving := by
  have hrun : w.engine.running = false := by
    rw [← Bool.not_eq_true, h.running]
    exact hcall
  cases action with
  | advance slices =>
    rw [act, step]
    cases w.point with
    | asking seq =>
      simp only [StreamPoint.step, host, ProcessEngine.logLength, hrun]
      exact ⟨rfl, hcall⟩
    | pausing seq left => cases left <;> exact ⟨rfl, hcall⟩
    | _ => exact ⟨rfl, hcall⟩
  | notice =>
    rw [act]
    split
    · exact ⟨rfl, by simp⟩
    · exact ⟨rfl, hcall⟩
  | giveBack =>
    rw [act]
    split
    · split
      · exact ⟨rfl, by simp⟩
      · exact ⟨rfl, hcall⟩
    · exact ⟨rfl, hcall⟩
  | _ =>
    rw [act]
    split <;> exact ⟨rfl, hcall⟩

theorem told_run {w : Outflow} (h : w.Flows) (hcall : w.call ≠ .serving) (actions : List Action) :
    (w.run actions).told = w.told := by
  induction actions generalizing w with
  | nil => rfl
  | cons action rest ih =>
    obtain ⟨htold, hcall'⟩ := told_act h hcall action
    exact (ih (h.act action) hcall').trans htold

theorem pushed_step (w : Outflow) (slices : Nat) : (w.step slices).pushed = w.pushed := by
  unfold step
  cases w.point with
  | asking seq =>
    simp only [StreamPoint.step, host, ProcessEngine.logLength]
    by_cases hrun : w.engine.running = true
    · simp only [if_pos hrun]
      cases w.engine.logs.length <;> rfl
    · simp only [if_neg hrun]
  | pausing seq left => cases left <;> rfl
  | _ => rfl

theorem pushed_prefix_act (w : Outflow) (action : Action) :
    w.pushed <+: (w.act action).pushed := by
  cases action with
  | push pipe stamp =>
    rw [act]
    split
    · exact List.prefix_rfl
    · exact List.prefix_append ..
  | advance slices => exact ⟨[], (List.append_nil _).trans (pushed_step w slices).symm⟩
  | giveBack =>
    rw [act]
    split
    · split <;> exact List.prefix_rfl
    · exact List.prefix_rfl
  | _ =>
    rw [act]
    split <;> exact List.prefix_rfl

/-- What comes later is behind what was pushed before. -/
theorem entries_prefix_run (w : Outflow) (actions : List Action) :
    w.entries <+: (w.run actions).entries := by
  have hpushed : w.pushed <+: (w.run actions).pushed := by
    induction actions generalizing w with
    | nil => exact List.prefix_rfl
    | cons action rest ih => exact (pushed_prefix_act w action).trans (ih (w.act action))
  exact hpushed.map _

/-- **What of a child's output is handed on, when nobody asks anything to stop and the readers come
to their end before the start call returns.** At every moment what the log stream handed on and what
it has still to hand on are the records that were pushed, each once and in their order, and it
numbers what it hands on by 0, 1, 2 and so on. When the start call has returned, each reader has
pushed all lines that the child wrote to its pipe, in their order. A stream that has seen the log
closed has handed on just those records of which it was told while the engine was marked running. No
record pushed after the start call has noticed the exit is among them, whatever happens later. -/
theorem received_run (earlier : Nat) (name : String) (actions later : List Action) :
    let w := (launched earlier name).run actions
    w.received.map (·.entry) ++ w.engine.logs.drop w.point.ahead = w.entries ∧
      w.received.map (·.seq) = List.range w.received.length ∧
      (∀ status, w.call = .returned status →
        ∀ pipe, w.textsOf pipe = (w.written pipe).map lineText) ∧
      (w.point.isEnded = true → w.received.map (·.entry) = w.entries.take w.told) ∧
      (w.call ≠ .serving → (w.run later).point.isEnded = true →
        (w.run later).received.map (·.entry) = w.entries.take w.told) := by
  intro w
  have h : w.Flows := (flows_launched earlier name).run actions
  refine ⟨h.balance, h.numbered, fun status hs pipe => ?_, h.received_of_isEnded,
    fun hcall he => ?_⟩
  · have hsource := h.sources pipe
    rwa [h.unread_of_returned hs, List.map_nil, List.append_nil] at hsource
  · have h' := h.run later
    rw [h'.received_of_isEnded he, told_run h hcall]
    obtain ⟨more, hmore⟩ := entries_prefix_run w later
    rw [← hmore, List.take_append_of_le_length (by simpa [entries] using h.told_le)]

/-- A child writes a line and crashes. The start call notices the exit after the line was pushed and
before the log stream asks for it. The start call returns after the readers, the stream has seen the
log closed, and it has handed on nothing. -/
theorem undelivered_crash :
    let w := (launched 0 "engine").run
      [.write .out [98, 111, 111, 109], .exit (some crashCode), .push .out 1, .notice, .advance 4,
        .advance 4, .giveBack]
    w.written .out = [[98, 111, 111, 109]] ∧ w.call = .returned .panicked ∧
      w.point.isEnded = true ∧ w.received = [] :=
  ⟨rfl, rfl, rfl, rfl⟩

end Outflow

end ProxyControl
