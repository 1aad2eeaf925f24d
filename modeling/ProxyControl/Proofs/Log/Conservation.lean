import ProxyControl.Log.Held
import ProxyControl.Log.Stream

/-!
# Conservation of log records

Log streams run one after another on an engine that holds its records in order and drops them from
the front. Between any two calls more records may come in, and at any look a stream may find that it
was asked to stop; each consumer may refuse to take more at any record. Whatever happens, the
records that were handed on and those still held are together the records that were there first and
those that came in, in their order. In the middle of a round the records at the front of the log
were handed on and are not dropped yet, so they are not counted again.

## Main definitions

* `Circumstances`: what comes in, who asks a stream to stop, and which consumer refuses
* `LogScene`: an engine's records, the stream that runs, and what the streams handed on
* `LogScene.tick`, `LogScene.run`: one call of the stream, or the next stream, and many of them
* `StreamPoint.ahead`: how many of the records held were handed on already

## Main results

* `LogScene.conserved_run`: the conservation law, at every moment and for every circumstances
-/

set_option autoImplicit false

namespace ProxyControl

/-- What goes on around log streams, by the ticks of a clock. -/
structure Circumstances where
  /-- The records that come in just before a tick. -/
  arrivals : Nat → List LogEntry
  /-- Whether a look for a request to stop finds one. -/
  stopAsked : Nat → Bool
  /-- Whether the consumer that is offered a record takes more. -/
  takesMore : Nat → Bool
  /-- How often the stream with the given number looks for a request to stop in a pause. -/
  slices : Nat → Nat

/-- The records that came in before so many ticks. -/
def Circumstances.arrived (c : Circumstances) (n : Nat) : List LogEntry :=
  (List.range n).flatMap c.arrivals

theorem Circumstances.arrived_succ (c : Circumstances) (n : Nat) :
    c.arrived (n + 1) = c.arrived n ++ c.arrivals n := by
  simp [arrived, List.range_succ]

namespace StreamPoint

/-- How many of the records that the engine holds were handed on in the round under way. -/
def ahead : StreamPoint → Nat
  | .reading _ index _ | .offering _ index _ _ => index
  | .trimming _ index | .leaving _ index => index + 1
  | .checking _ | .asking _ | .pausing _ _ | .ended _ => 0

theorem ahead_of_isEnded {point : StreamPoint} (h : point.isEnded = true) : point.ahead = 0 := by
  cases point <;> first | rfl | cases h

/-- The round under way stays within the records that the engine holds. -/
def InBounds (held : HeldLog) : StreamPoint → Prop
  | .reading _ index length => index < length ∧ length ≤ held.length
  | .offering _ index length entry =>
    index < length ∧ length ≤ held.length ∧ held[index]? = some entry
  | .trimming _ index | .leaving _ index => index < held.length
  | .checking _ | .asking _ | .pausing _ _ | .ended _ => True

theorem InBounds.ahead_le {held : HeldLog} {point : StreamPoint} (h : point.InBounds held) :
    point.ahead ≤ held.length := by
  cases point <;> simp only [InBounds, ahead] at h ⊢ <;> omega

/-- Records that come in do not disturb a round. -/
theorem InBounds.append {held : HeldLog} {point : StreamPoint} (h : point.InBounds held)
    (more : List LogEntry) : point.InBounds (held ++ more) := by
  cases point with
  | offering seq index length entry =>
    obtain ⟨hi, hl, he⟩ := h
    refine ⟨hi, by simp; omega, ?_⟩
    rwa [List.getElem?_append_left (by omega)]
  | reading seq index length =>
    obtain ⟨hi, hl⟩ := h
    exact ⟨hi, by simp; omega⟩
  | trimming seq index | leaving seq index => exact Nat.lt_of_lt_of_le h (by simp)
  | _ => trivial

end StreamPoint

/-- An engine's records, the log stream that runs, and what the streams handed on. -/
structure LogScene where
  /-- The records that the engine holds, the oldest first. -/
  held : HeldLog
  /-- Where the stream that runs is in its loop. -/
  point : StreamPoint
  /-- What this stream handed on. -/
  current : List LogRecord
  /-- What each earlier stream handed on. -/
  past : List (List LogRecord)
  /-- How many ticks have gone by. -/
  clock : Nat

namespace LogScene

/-- An engine that holds some records, and its first stream at its start. -/
def ofHeld (held : HeldLog) : LogScene := ⟨held, .initial, [], [], 0⟩

/-- What each stream handed on, in their order. -/
def streams (w : LogScene) : List (List LogRecord) := w.past ++ [w.current]

/-- The entries of all records that were handed on. -/
def handed (w : LogScene) : List LogEntry := w.streams.flatten.map (·.entry)

/-- What a stream calls: an engine that reports how many records it holds, reads them by index and
drops them from the front, and a consumer. -/
def host (c : Circumstances) : StreamHost LogScene where
  stopRequested w := (c.stopAsked w.clock, w)
  length w := (some w.held.length, w)
  read index w := (HeldLog.read w.held index, w)
  deleteSince index w := { w with held := w.held.drop (min (index + 1) w.held.length) }
  offer record w := (c.takesMore w.clock, { w with current := w.current ++ [record] })

/-- The records of a tick come in. -/
def arrive (c : Circumstances) (w : LogScene) : LogScene :=
  { w with held := w.held ++ c.arrivals w.clock, clock := w.clock + 1 }

/-- The stream that runs makes one step; it makes at most one call. -/
def step (c : Circumstances) (w : LogScene) : LogScene :=
  let (point, w) := w.point.step (host c) (c.slices w.past.length) w
  { w with point := point }

/-- The next stream starts. -/
def reopen (w : LogScene) : LogScene :=
  { w with point := .initial, past := w.past ++ [w.current], current := [] }

/-- Records come in, and then the stream makes a step; when it has ended, the next one starts. -/
def tick (c : Circumstances) (w : LogScene) : LogScene :=
  let w := w.arrive c
  if w.point.isEnded then w.reopen else w.step c

/-- So many ticks. -/
def run (c : Circumstances) : Nat → LogScene → LogScene
  | 0, w => w
  | n + 1, w => (run c n w).tick c

@[simp] theorem handed_arrive (c : Circumstances) (w : LogScene) :
    (w.arrive c).handed = w.handed := rfl

/-- A record handed on is the last of all that were. -/
theorem handed_offer (c : Circumstances) (w : LogScene) (record : LogRecord) :
    ((host c).offer record w).2.handed = w.handed ++ [record.entry] := by
  simp [handed, streams, host]

/-- The law that every tick keeps, for an engine that held `first` at the start. -/
structure Conserves (c : Circumstances) (first : HeldLog) (w : LogScene) : Prop where
  /-- What was handed on and what is to be handed on yet is all that ever was there. -/
  balance : w.handed ++ w.held.drop w.point.ahead = first ++ c.arrived w.clock
  /-- The round under way stays within the records that the engine holds. -/
  inBounds : w.point.InBounds w.held
  /-- The stream counts what it handed on. -/
  count : w.point.handedOn = w.current.length
  /-- Each stream numbers what it hands on, from zero. -/
  numbered : ∀ records ∈ w.streams, records.map (·.seq) = List.range records.length

theorem conserves_ofHeld (c : Circumstances) (held : HeldLog) : (ofHeld held).Conserves c held where
  balance := by simp [ofHeld, handed, streams, StreamPoint.initial, StreamPoint.ahead,
    Circumstances.arrived]
  inBounds := trivial
  count := rfl
  numbered := by simp [ofHeld, streams]

namespace Conserves

variable {c : Circumstances} {first : HeldLog} {w : LogScene}

theorem arrive (h : w.Conserves c first) : (w.arrive c).Conserves c first where
  balance := by
    rw [handed_arrive]
    simp only [LogScene.arrive]
    rw [Circumstances.arrived_succ, ← List.append_assoc, ← h.balance, List.append_assoc,
      List.drop_append_of_le_length h.inBounds.ahead_le]
  inBounds := h.inBounds.append _
  count := h.count
  numbered := h.numbered

theorem reopen (h : w.Conserves c first) (he : w.point.isEnded = true) :
    w.reopen.Conserves c first where
  balance := by
    have hb := h.balance
    rw [StreamPoint.ahead_of_isEnded he] at hb
    simpa [LogScene.reopen, handed, streams, StreamPoint.initial, StreamPoint.ahead] using hb
  inBounds := trivial
  count := rfl
  numbered := by
    intro records hr
    simp only [LogScene.reopen, streams, List.mem_append, List.mem_singleton] at hr
    rcases hr with hr | rfl
    · exact h.numbered records (by simpa [streams] using hr)
    · rfl

/-- A record that is handed on is the one that was read, and it gets the next number. -/
theorem offer (h : w.Conserves c first) {seq index length : Nat} {entry : LogEntry}
    (hp : w.point = .offering seq index length entry) (next : StreamPoint)
    (ha : next.ahead = index + 1) (hn : next.handedOn = seq + 1) (hi : next.InBounds w.held) :
    LogScene.Conserves c first
      { ((host c).offer ⟨seq, entry⟩ w).2 with point := next } where
  balance := by
    have hb := h.balance
    have hin := h.inBounds
    rw [hp] at hb hin
    obtain ⟨hlt, hle, he⟩ := hin
    have hh : handed { ((host c).offer ⟨seq, entry⟩ w).2 with point := next } =
        w.handed ++ [entry] := handed_offer c w ⟨seq, entry⟩
    rw [hh, ha]
    rw [StreamPoint.ahead, ← List.getElem_cons_drop (by omega : index < w.held.length)] at hb
    rw [List.getElem?_eq_getElem (by omega), Option.some.injEq] at he
    rw [he] at hb
    simpa [host] using hb
  inBounds := hi
  count := by
    have hc := h.count
    rw [hp, StreamPoint.handedOn] at hc
    simp [hn, host, hc]
  numbered := by
    have hc := h.count
    rw [hp, StreamPoint.handedOn] at hc
    intro records hr
    simp only [host, streams, List.mem_append, List.mem_singleton] at hr
    rcases hr with hr | rfl
    · exact h.numbered records (by simp [streams, hr])
    -- the stream has handed on `seq` records, so the next number is `seq`
    · have hcur := h.numbered w.current (by simp [streams])
      simp [hcur, hc, List.range_succ]

/-- What was handed on in a round is dropped at its end, and nothing else. -/
theorem drop (h : w.Conserves c first) {index : Nat} (ha : w.point.ahead = index + 1)
    (next : StreamPoint) (hn : next.ahead = 0) (hi : ∀ held, next.InBounds held)
    (hs : next.handedOn = w.point.handedOn) :
    LogScene.Conserves c first { (host c).deleteSince index w with point := next } where
  balance := by
    have hb := h.balance
    have hle := h.inBounds.ahead_le
    rw [ha] at hb hle
    rw [hn, List.drop_zero]
    simpa [host, handed, streams, Nat.min_eq_left hle] using hb
  inBounds := hi _
  count := hs.trans h.count
  numbered := h.numbered

/-- A step that neither hands on nor drops a record. -/
theorem move (h : w.Conserves c first) (next : StreamPoint) (ha : next.ahead = w.point.ahead)
    (hs : next.handedOn = w.point.handedOn) (hi : next.InBounds w.held) :
    LogScene.Conserves c first { w with point := next } where
  balance := by
    have hb := h.balance
    rw [← ha] at hb
    exact hb
  inBounds := hi
  count := hs.trans h.count
  numbered := h.numbered

/-- A stream's step keeps the law: the cases are the points of its loop. -/
theorem step (h : w.Conserves c first) : (w.step c).Conserves c first := by
  have hin := h.inBounds
  unfold LogScene.step
  cases hp : w.point with
  | checking seq =>
    change Conserves c first
      { w with point := if c.stopAsked w.clock then .ended seq else .asking seq }
    split <;> exact h.move _ (by rw [hp]; rfl) (by rw [hp]; rfl) trivial
  | asking seq =>
    simp only [StreamPoint.step, host]
    cases hl : w.held.length with
    | zero => exact h.move _ (by rw [hp]; rfl) (by rw [hp]; rfl) trivial
    | succ n => exact h.move _ (by rw [hp]; rfl) (by rw [hp]; rfl) ⟨by omega, by omega⟩
  | reading seq index length =>
    rw [hp] at hin
    obtain ⟨hlt, hle⟩ := hin
    -- records are dropped only at the end of a round, so the index is still in the log
    have hread : w.held[index]? = some (HeldLog.read w.held index) := by
      rw [HeldLog.read, List.getElem?_eq_getElem (by omega), Option.getD_some]
    exact h.move _ (by rw [hp]; rfl) (by rw [hp]; rfl) ⟨hlt, hle, hread⟩
  | offering seq index length entry =>
    rw [hp] at hin
    obtain ⟨hlt, hle, -⟩ := hin
    have htrim : index < w.held.length := by omega
    change Conserves c first { ((host c).offer ⟨seq, entry⟩ w).2 with
      point := if !c.takesMore w.clock then .leaving (seq + 1) index
        else if index + 1 < length then .reading (seq + 1) (index + 1) length
        else .trimming (seq + 1) index }
    split
    · exact h.offer hp _ rfl rfl htrim
    · split
      · next hmore => exact h.offer hp _ rfl rfl ⟨hmore, hle⟩
      · exact h.offer hp _ rfl rfl htrim
  | trimming seq index =>
    exact h.drop (by rw [hp]; rfl) (.pausing seq _) rfl (fun _ => trivial) (by rw [hp]; rfl)
  | leaving seq index =>
    exact h.drop (by rw [hp]; rfl) (.ended seq) rfl (fun _ => trivial) (by rw [hp]; rfl)
  | pausing seq left =>
    cases left with
    | zero => exact h.move _ (by rw [hp]; rfl) (by rw [hp]; rfl) trivial
    | succ left =>
      change Conserves c first
        { w with point := if c.stopAsked w.clock then .ended seq else .pausing seq left }
      split <;> exact h.move _ (by rw [hp]; rfl) (by rw [hp]; rfl) trivial
  | ended seq => exact h.move _ (by rw [hp]) (by rw [hp]) trivial

theorem tick (h : w.Conserves c first) : (w.tick c).Conserves c first := by
  by_cases he : (w.arrive c).point.isEnded = true
  · rw [LogScene.tick, if_pos he]
    exact h.arrive.reopen he
  · rw [LogScene.tick, if_neg he]
    exact h.arrive.step

end Conserves

theorem conserves_run (c : Circumstances) (held : HeldLog) (n : Nat) :
    ((ofHeld held).run c n).Conserves c held := by
  induction n with
  | zero => exact conserves_ofHeld c held
  | succ n ih => exact ih.tick

theorem clock_step (c : Circumstances) (w : LogScene) : (w.step c).clock = w.clock := by
  unfold step
  cases w.point with
  | asking seq =>
    simp only [StreamPoint.step, host]
    cases w.held.length <;> rfl
  | pausing seq left => cases left <;> rfl
  | _ => rfl

theorem clock_tick (c : Circumstances) (w : LogScene) : (w.tick c).clock = w.clock + 1 := by
  by_cases he : (w.arrive c).point.isEnded = true
  · rw [tick, if_pos he]
    rfl
  · rw [tick, if_neg he, clock_step]
    rfl

theorem clock_run (c : Circumstances) (held : HeldLog) (n : Nat) :
    ((ofHeld held).run c n).clock = n := by
  induction n with
  | zero => rfl
  | succ n ih => rw [run, clock_tick, ih]

/-- **No record is lost, repeated or moved.** At every moment, in all circumstances, what the
streams handed on and what is held beyond it are the records that were there first and those that
came in, in their order; a stream that has ended leaves nothing behind that it handed on. Each
stream numbers what it hands on by 0, 1, 2 and so on. -/
theorem conserved_run (c : Circumstances) (held : HeldLog) (n : Nat) :
    let w := (ofHeld held).run c n
    w.handed ++ w.held.drop w.point.ahead = held ++ c.arrived n ∧
      (w.point.isEnded = true → w.handed ++ w.held = held ++ c.arrived n) ∧
      ∀ records ∈ w.streams, records.map (·.seq) = List.range records.length := by
  intro w
  have h := conserves_run c held n
  have hb := h.balance
  rw [clock_run] at hb
  refine ⟨hb, fun he => ?_, h.numbered⟩
  rwa [StreamPoint.ahead_of_isEnded he, List.drop_zero] at hb

/-- A consumer that refuses at its second record leaves the other ones to the next stream. -/
example :
    let c : Circumstances := ⟨fun n => if n = 4 then [⟨3, "c"⟩] else [], fun _ => false, (· ≠ 6),
      fun _ => 0⟩
    ((ofHeld [⟨1, "a"⟩, ⟨2, "b"⟩]).run c 16).streams =
      [[⟨0, 1, "a"⟩, ⟨1, 2, "b"⟩], [⟨0, 3, "c"⟩]] := by decide

end LogScene

end ProxyControl
