import Mathlib.Data.List.Induction
import ProxyControl.Log.Stream

/-!
# The calls of a log stream

A log stream calls an engine and a consumer, of which nothing is assumed here: any number of records
may be told, whatever was dropped before, any record may be read, and the consumer may refuse at any
record. Somebody may ask the stream to stop before any of its steps. Whatever happens, the calls are
those of one round after the other. Only the last round may be one that ends the stream, because the
log was closed or because the consumer takes no more.

A request to stop does not cut a round short. The round that had begun when it was made, if only by
a look that found none, is carried out to its end, and no other one begins.

## Main definitions

* `StreamCall`: a call of a stream, with its answer
* `StreamRound`, `StreamRound.calls`: a round and its calls
* `Encounter`: what a stream meets
* `StreamTrace`, `StreamTrace.run`: a stream and the calls that it made

## Main results

* `StreamTrace.Underway.step`: what a step does within a round
* `StreamTrace.Underway.completes`: a round that has begun is carried out
* `StreamTrace.rounds_run`: the calls of a stream in all circumstances
-/

set_option autoImplicit false

namespace ProxyControl

/-- A call of a stream, with its answer. -/
inductive StreamCall where
  /-- The question how many records there are, and the number, or that the log is closed. -/
  | length (answer : Option Nat)
  | read (index : Nat) (entry : LogEntry)
  /-- A record handed to the consumer, and whether it takes more. -/
  | offer (record : LogRecord) (more : Bool)
  | deleteSince (index : Nat)
  deriving DecidableEq, Repr

/-! ## Rounds -/

/-- A round of a stream. -/
inductive StreamRound where
  /-- The log is closed. -/
  | closed
  /-- There are no records. -/
  | empty
  /-- The consumer takes all records. -/
  | whole (before : List LogEntry) (last : LogEntry)
  /-- The consumer takes no more after a record behind which there are some that are not read. -/
  | refused (before : List LogEntry) (last : LogEntry) (unread : Nat)
  deriving DecidableEq, Repr

/-- Records as a consumer gets them, numbered from `seq` on. -/
def numbered (seq : Nat) (entries : List LogEntry) : List LogRecord :=
  (entries.zipIdx seq).map fun e => ⟨e.2, e.1⟩

theorem numbered_append (seq : Nat) (entries more : List LogEntry) :
    numbered seq (entries ++ more) = numbered seq entries ++ numbered (seq + entries.length) more := by
  simp [numbered, List.zipIdx_append]

theorem numbered_singleton (seq : Nat) (entry : LogEntry) :
    numbered seq [entry] = [⟨seq, entry⟩] := rfl

/-- The records that are read from an index on, each handed on before the next one is read, to a
consumer that takes more. -/
def handings (seq : Nat) (entries : List LogEntry) : List StreamCall :=
  entries.zipIdx.flatMap fun e => [.read e.2 e.1, .offer ⟨seq + e.2, e.1⟩ true]

@[simp] theorem handings_nil (seq : Nat) : handings seq [] = [] := rfl

theorem handings_concat (seq : Nat) (entries : List LogEntry) (entry : LogEntry) :
    handings seq (entries ++ [entry]) =
      handings seq entries ++
        [.read entries.length entry, .offer ⟨seq + entries.length, entry⟩ true] := by
  simp [handings, List.zipIdx_append]

namespace StreamRound

/-- The records that are read in a round. -/
def entries : StreamRound → List LogEntry
  | .closed | .empty => []
  | .whole before last | .refused before last _ => before ++ [last]

/-- Whether the stream goes on after a round. -/
def goesOn : StreamRound → Bool
  | .empty | .whole _ _ => true
  | .closed | .refused _ _ _ => false

/-- The calls of a round before which so many records were handed on. -/
def calls (seq : Nat) : StreamRound → List StreamCall
  | .closed => [.length none]
  | .empty => [.length (some 0)]
  | .whole before last =>
    .length (some (before.length + 1)) ::
      (handings seq (before ++ [last]) ++ [.deleteSince before.length])
  | .refused before last unread =>
    .length (some (before.length + 1 + unread)) ::
      (handings seq before ++ [.read before.length last, .offer ⟨seq + before.length, last⟩ false,
        .deleteSince before.length])

/-- Where a stream is after a round. -/
def next (slices seq : Nat) (r : StreamRound) : StreamPoint :=
  if r.goesOn then .pausing seq slices else .ended seq

end StreamRound

/-- The records that are read in some rounds. -/
def entriesOf (rounds : List StreamRound) : List LogEntry := rounds.flatMap StreamRound.entries

/-- The calls of rounds that follow each other. -/
def callsOf : Nat → List StreamRound → List StreamCall
  | _, [] => []
  | seq, r :: rounds => r.calls seq ++ callsOf (seq + r.entries.length) rounds

theorem callsOf_concat (seq : Nat) (rounds : List StreamRound) (r : StreamRound) :
    callsOf seq (rounds ++ [r]) =
      callsOf seq rounds ++ r.calls (seq + (entriesOf rounds).length) := by
  induction rounds generalizing seq with
  | nil => simp [callsOf, entriesOf]
  | cons a rounds ih =>
    simp [callsOf, entriesOf, ih, Nat.add_assoc]

/-- Rounds that follow each other: only the last one may end the stream. -/
def Unbroken (rounds : List StreamRound) : Prop := ∀ r ∈ rounds.dropLast, r.goesOn = true

/-! ## What is read and what is handed on -/

/-- The records that were read. -/
def readsOf (calls : List StreamCall) : List LogEntry :=
  calls.filterMap fun
    | .read _ entry => some entry
    | _ => none

/-- The records that the consumer got. -/
def receivedOf (calls : List StreamCall) : List LogRecord :=
  calls.filterMap fun
    | .offer record _ => some record
    | _ => none

@[simp] theorem readsOf_nil : readsOf [] = [] := rfl

@[simp] theorem readsOf_append (calls more : List StreamCall) :
    readsOf (calls ++ more) = readsOf calls ++ readsOf more := List.filterMap_append

@[simp] theorem readsOf_length (answer : Option Nat) (calls : List StreamCall) :
    readsOf (.length answer :: calls) = readsOf calls := rfl

@[simp] theorem readsOf_read (index : Nat) (entry : LogEntry) (calls : List StreamCall) :
    readsOf (.read index entry :: calls) = entry :: readsOf calls := rfl

@[simp] theorem readsOf_offer (record : LogRecord) (more : Bool) (calls : List StreamCall) :
    readsOf (.offer record more :: calls) = readsOf calls := rfl

@[simp] theorem readsOf_deleteSince (index : Nat) (calls : List StreamCall) :
    readsOf (.deleteSince index :: calls) = readsOf calls := rfl

@[simp] theorem receivedOf_nil : receivedOf [] = [] := rfl

@[simp] theorem receivedOf_append (calls more : List StreamCall) :
    receivedOf (calls ++ more) = receivedOf calls ++ receivedOf more := List.filterMap_append

@[simp] theorem receivedOf_length (answer : Option Nat) (calls : List StreamCall) :
    receivedOf (.length answer :: calls) = receivedOf calls := rfl

@[simp] theorem receivedOf_read (index : Nat) (entry : LogEntry) (calls : List StreamCall) :
    receivedOf (.read index entry :: calls) = receivedOf calls := rfl

@[simp] theorem receivedOf_offer (record : LogRecord) (more : Bool) (calls : List StreamCall) :
    receivedOf (.offer record more :: calls) = record :: receivedOf calls := rfl

@[simp] theorem receivedOf_deleteSince (index : Nat) (calls : List StreamCall) :
    receivedOf (.deleteSince index :: calls) = receivedOf calls := rfl

@[simp] theorem readsOf_handings (seq : Nat) (entries : List LogEntry) :
    readsOf (handings seq entries) = entries := by
  induction entries using List.reverseRecOn with
  | nil => rfl
  | append_singleton entries entry ih => simp [handings_concat, ih]

@[simp] theorem receivedOf_handings (seq : Nat) (entries : List LogEntry) :
    receivedOf (handings seq entries) = numbered seq entries := by
  induction entries using List.reverseRecOn with
  | nil => rfl
  | append_singleton entries entry ih =>
    simp [handings_concat, ih, numbered_append, numbered_singleton]

theorem readsOf_round (seq : Nat) (r : StreamRound) : readsOf (r.calls seq) = r.entries := by
  cases r <;> simp [StreamRound.calls, StreamRound.entries]

theorem receivedOf_round (seq : Nat) (r : StreamRound) :
    receivedOf (r.calls seq) = numbered seq r.entries := by
  cases r with
  | closed | empty => rfl
  | _ => simp [StreamRound.calls, StreamRound.entries, numbered_append, numbered_singleton]

theorem readsOf_callsOf (rounds : List StreamRound) :
    readsOf (callsOf 0 rounds) = entriesOf rounds := by
  induction rounds using List.reverseRecOn with
  | nil => rfl
  | append_singleton rounds r ih =>
    rw [callsOf_concat, readsOf_append, ih, readsOf_round]
    simp [entriesOf]

/-- The consumer gets the records that are read in some rounds, numbered from zero. -/
theorem receivedOf_callsOf (rounds : List StreamRound) :
    receivedOf (callsOf 0 rounds) = numbered 0 (entriesOf rounds) := by
  induction rounds using List.reverseRecOn with
  | nil => rfl
  | append_singleton rounds r ih =>
    rw [callsOf_concat, receivedOf_append, ih, receivedOf_round, ← numbered_append]
    simp [entriesOf]

/-! ## Streams with their calls -/

/-- What a stream meets, by the number of steps that it has made. -/
structure Encounter where
  /-- The answer to the question how many records there are. -/
  length : Nat → Option Nat
  /-- The record that is read at an index. -/
  entry : Nat → Nat → LogEntry
  /-- Whether the consumer takes more after a record. -/
  takesMore : Nat → LogRecord → Bool
  /-- How often the stream looks for a request to stop in a pause that begins. -/
  slices : Nat → Nat
  /-- After how many steps the stream is asked to stop, if ever. -/
  stopAt : Option Nat

/-- Whether the stream was asked to stop before it has made so many steps. -/
def Encounter.isStopped (e : Encounter) (n : Nat) : Bool := e.stopAt.any (· ≤ n)

/-- A stream, the calls that it made, and the number of its steps. -/
structure StreamTrace where
  point : StreamPoint
  calls : List StreamCall
  clock : Nat

namespace StreamTrace

/-- A stream at its start. -/
def initial : StreamTrace := ⟨.initial, [], 0⟩

/-- The trace with one more call. -/
def record (call : StreamCall) (w : StreamTrace) : StreamTrace :=
  { w with calls := w.calls ++ [call] }

/-- What the stream calls. -/
def host (e : Encounter) : StreamHost StreamTrace where
  stopRequested w := (e.isStopped w.clock, w)
  length w := (e.length w.clock, w.record (.length (e.length w.clock)))
  read index w := (e.entry w.clock index, w.record (.read index (e.entry w.clock index)))
  deleteSince index w := w.record (.deleteSince index)
  offer r w := (e.takesMore w.clock r, w.record (.offer r (e.takesMore w.clock r)))

/-- One step of the stream. -/
def step (e : Encounter) (w : StreamTrace) : StreamTrace :=
  let (point, w) := w.point.step (host e) (e.slices w.clock) w
  { w with point := point, clock := w.clock + 1 }

/-- So many steps of the stream. -/
def run (e : Encounter) : Nat → StreamTrace → StreamTrace
  | 0, w => w
  | n + 1, w => (run e n w).step e

variable {e : Encounter} {w : StreamTrace} {prior part : List StreamCall} {base : Nat}

theorem run_add (e : Encounter) (n m : Nat) (w : StreamTrace) :
    run e (n + m) w = run e m (run e n w) := by
  induction m with
  | zero => rfl
  | succ m ih => exact congrArg (step e) ih

theorem clock_step (e : Encounter) (w : StreamTrace) : (w.step e).clock = w.clock + 1 := by
  unfold step
  cases w.point with
  | asking seq =>
    simp only [StreamPoint.step, host]
    rcases e.length w.clock with _ | _ | n <;> rfl
  | pausing seq left => cases left <;> rfl
  | _ => rfl

theorem clock_run (e : Encounter) (n : Nat) (w : StreamTrace) :
    (run e n w).clock = w.clock + n := by
  induction n with
  | zero => rfl
  | succ n ih => rw [run, clock_step, ih, Nat.add_assoc]

end StreamTrace

namespace StreamPoint

/-- Whether a round has begun, if only by a look that found no request to stop. -/
def isInRound : StreamPoint → Bool
  | .asking _ | .reading _ _ _ | .offering _ _ _ _ | .trimming _ _ | .leaving _ _ => true
  | .checking _ | .pausing _ _ | .ended _ => false

/-- How many steps a round takes at most from where it is, once it is known how many records there
are. -/
def stepsLeft : StreamPoint → Nat
  | .reading _ index length => 2 * (length - index) + 1
  | .offering _ index length _ => 2 * (length - index)
  | .trimming _ _ | .leaving _ _ => 1
  | .checking _ | .asking _ | .pausing _ _ | .ended _ => 0

end StreamPoint

namespace StreamTrace

variable {e : Encounter} {w : StreamTrace} {prior part : List StreamCall} {base : Nat}

/-- The calls that were made in the round under way, when `base` records were handed on before
it. -/
def Underway (base : Nat) (part : List StreamCall) : StreamPoint → Prop
  | .asking seq => seq = base ∧ part = []
  | .reading seq index length =>
    ∃ entries, entries.length = index ∧ index < length ∧ seq = base + index ∧
      part = .length (some length) :: handings base entries
  | .offering seq index length entry =>
    ∃ entries, entries.length = index ∧ index < length ∧ seq = base + index ∧
      part = .length (some length) :: (handings base entries ++ [.read index entry])
  | .trimming seq index =>
    ∃ before last, before.length = index ∧ seq = base + (index + 1) ∧
      part = .length (some (index + 1)) :: handings base (before ++ [last])
  | .leaving seq index =>
    ∃ before last unread, before.length = index ∧ seq = base + (index + 1) ∧
      part = .length (some (index + 1 + unread)) ::
        (handings base before ++ [.read index last, .offer ⟨base + index, last⟩ false])
  | .checking _ | .pausing _ _ | .ended _ => False

theorem Underway.isInRound {point : StreamPoint} (h : Underway base part point) :
    point.isInRound = true := by
  cases point <;> first | rfl | exact h.elim

/-- **A step within a round** makes one more of its calls, and comes nearer to its end after the first
one; or it ends the round. -/
theorem Underway.step (h : Underway base part w.point) (hc : w.calls = prior ++ part) :
    (∃ part', (w.step e).calls = prior ++ part' ∧ Underway base part' (w.step e).point ∧
      part' ≠ [] ∧ (part = [] ∨ (w.step e).point.stepsLeft < w.point.stepsLeft)) ∨
    ∃ r : StreamRound, (w.step e).calls = prior ++ r.calls base ∧
      (w.step e).point = r.next (e.slices w.clock) (base + r.entries.length) := by
  unfold StreamTrace.step
  cases hp : w.point with
  | checking seq | pausing seq left | ended seq => rw [hp] at h; exact h.elim
  | asking seq =>
    rw [hp] at h
    obtain ⟨rfl, rfl⟩ := h
    rw [List.append_nil] at hc
    simp only [StreamPoint.step, host]
    cases hl : e.length w.clock with
    | none => exact .inr ⟨.closed, by simp [record, hc, StreamRound.calls], rfl⟩
    | some n =>
      cases n with
      | zero => exact .inr ⟨.empty, by simp [record, hc, StreamRound.calls], rfl⟩
      | succ n =>
        exact .inl ⟨_, congrArg (· ++ _) hc, ⟨[], rfl, Nat.succ_pos n, rfl, rfl⟩,
          List.cons_ne_nil _ _, .inl trivial⟩
  | reading seq index length =>
    rw [hp] at h
    obtain ⟨entries, hi, hlt, hs, rfl⟩ := h
    refine .inl ⟨_, ?_, ⟨entries, hi, hlt, hs, rfl⟩, List.cons_ne_nil _ _, .inr ?_⟩
    · simp [StreamPoint.step, host, record, hc]
    · simp [StreamPoint.step, StreamPoint.stepsLeft]
  | offering seq index length entry =>
    rw [hp] at h
    obtain ⟨entries, rfl, hlt, rfl, rfl⟩ := h
    have hcalls := congrArg
      (· ++ [StreamCall.offer ⟨base + entries.length, entry⟩
        (e.takesMore w.clock ⟨base + entries.length, entry⟩)]) hc
    simp only [List.append_assoc] at hcalls
    refine .inl ⟨_, hcalls, ?_⟩
    rw [← and_assoc, and_right_comm]
    refine ⟨?_, List.cons_ne_nil _ _⟩
    simp only [StreamPoint.step, host]
    by_cases hm : e.takesMore w.clock ⟨base + entries.length, entry⟩ = true
    · have hlength : (entries ++ [entry]).length = entries.length + 1 := List.length_append
      by_cases hnext : entries.length + 1 < length
      · simp only [hm, hnext, Bool.not_true, Bool.false_eq_true, if_false, if_true]
        refine ⟨⟨entries ++ [entry], hlength, hnext, rfl, by simp [handings_concat]⟩, .inr ?_⟩
        simp only [StreamPoint.stepsLeft]
        omega
      · obtain rfl : length = entries.length + 1 := by omega
        simp only [hm, hnext, Bool.not_true, Bool.false_eq_true, if_false]
        refine ⟨⟨entries, entry, rfl, rfl, by simp [handings_concat]⟩, .inr ?_⟩
        simp only [StreamPoint.stepsLeft]
        omega
    · obtain ⟨unread, rfl⟩ := Nat.exists_eq_add_of_lt hlt
      simp only [hm, Bool.not_false, if_true]
      refine ⟨⟨entries, entry, unread, rfl, rfl, ?_⟩, .inr ?_⟩
      · simp [Nat.add_right_comm]
      · simp only [StreamPoint.stepsLeft]
        omega
  | trimming seq index =>
    rw [hp] at h
    obtain ⟨before, last, rfl, rfl, rfl⟩ := h
    refine .inr ⟨.whole before last, ?_, ?_⟩
    · simp [StreamPoint.step, host, record, hc, StreamRound.calls]
    · simp [StreamPoint.step, StreamRound.next, StreamRound.goesOn, StreamRound.entries]
  | leaving seq index =>
    rw [hp] at h
    obtain ⟨before, last, unread, rfl, rfl, rfl⟩ := h
    refine .inr ⟨.refused before last unread, ?_, ?_⟩
    · simp [StreamPoint.step, host, record, hc, StreamRound.calls]
    · simp [StreamPoint.step, StreamRound.next, StreamRound.goesOn, StreamRound.entries]

theorem calls_prefix_step (e : Encounter) (w : StreamTrace) : w.calls <+: (w.step e).calls := by
  unfold StreamTrace.step
  cases w.point with
  | asking seq =>
    simp only [StreamPoint.step, host]
    rcases e.length w.clock with _ | _ | n <;> exact List.prefix_append _ _
  | pausing seq left => cases left <;> exact List.prefix_rfl
  | checking seq | ended seq => exact List.prefix_rfl
  | _ => exact List.prefix_append _ _

/-- What was called stays so. -/
theorem calls_prefix_run (e : Encounter) (n : Nat) (w : StreamTrace) :
    w.calls <+: (run e n w).calls := by
  induction n with
  | zero => exact List.prefix_rfl
  | succ n ih => exact ih.trans (calls_prefix_step e _)

/-- A round that has made its first call is carried out, as each step comes nearer to its end. -/
theorem Underway.completes_of_ne_nil (e : Encounter) {k : Nat} (h : Underway base part w.point)
    (hc : w.calls = prior ++ part) (hne : part ≠ []) (hk : w.point.stepsLeft < k) :
    ∃ m slices, ∃ r : StreamRound, (run e m w).calls = prior ++ r.calls base ∧
      (run e m w).point = r.next slices (base + r.entries.length) := by
  induction k generalizing w part with
  | zero => exact absurd hk (Nat.not_lt_zero _)
  | succ k ih =>
    rcases h.step (e := e) hc with ⟨part', hc', h', hne', hless⟩ | ⟨r, hc', hp'⟩
    · have hless := hless.resolve_left hne
      obtain ⟨m, slices, r, hr⟩ := ih h' hc' hne' (by omega)
      refine ⟨1 + m, slices, r, ?_⟩
      rw [run_add]
      exact hr
    · exact ⟨1, _, r, hc', hp'⟩

/-- **A round that has begun is carried out.** -/
theorem Underway.completes (e : Encounter) (h : Underway base part w.point)
    (hc : w.calls = prior ++ part) :
    ∃ m slices, ∃ r : StreamRound, (run e m w).calls = prior ++ r.calls base ∧
      (run e m w).point = r.next slices (base + r.entries.length) := by
  rcases h.step (e := e) hc with ⟨part', hc', h', hne', -⟩ | ⟨r, hc', hp'⟩
  · obtain ⟨m, slices, r, hr⟩ := h'.completes_of_ne_nil e hc' hne' (Nat.lt_succ_self _)
    refine ⟨1 + m, slices, r, ?_⟩
    rw [run_add]
    exact hr
  · exact ⟨1, _, r, hc', hp'⟩

/-- The consumer has got all records that were read in a round, unless the last one is still to be
handed on. -/
theorem Underway.received {point : StreamPoint} (h : Underway base part point) :
    receivedOf part = numbered base (readsOf part) ∨
      ∃ entries entry, readsOf part = entries ++ [entry] ∧
        receivedOf part = numbered base entries := by
  cases point with
  | checking seq | pausing seq left | ended seq => exact h.elim
  | asking seq =>
    obtain ⟨-, rfl⟩ := h
    exact .inl rfl
  | reading seq index length =>
    obtain ⟨entries, -, -, -, rfl⟩ := h
    exact .inl (by simp)
  | offering seq index length entry =>
    obtain ⟨entries, -, -, -, rfl⟩ := h
    exact .inr ⟨entries, entry, by simp, by simp⟩
  | trimming seq index =>
    obtain ⟨before, last, -, -, rfl⟩ := h
    exact .inl (by simp)
  | leaving seq index =>
    obtain ⟨before, last, unread, rfl, -, rfl⟩ := h
    exact .inl (by simp [numbered_append, numbered_singleton])

/-! ## Streams from their start -/

/-- The rounds that a stream has made. -/
inductive Stands (w : StreamTrace) (rounds : List StreamRound) : Prop
  /-- The stream is between two rounds, or it has ended. -/
  | between (outside : w.point.isInRound = false)
      (count : w.point.handedOn = (entriesOf rounds).length) (made : w.calls = callsOf 0 rounds)
      (unbroken : Unbroken rounds)
      (goesOn : w.point.isEnded = true ∨ ∀ r ∈ rounds, r.goesOn = true)
  /-- One more round is under way. -/
  | underway (part : List StreamCall) (within : Underway (entriesOf rounds).length part w.point)
      (made : w.calls = callsOf 0 rounds ++ part) (goesOn : ∀ r ∈ rounds, r.goesOn = true)

theorem stands_initial : initial.Stands [] :=
  .between rfl rfl rfl nofun (.inr nofun)

theorem unbroken_concat {rounds : List StreamRound} (h : ∀ r ∈ rounds, r.goesOn = true)
    (r : StreamRound) : Unbroken (rounds ++ [r]) := by
  rwa [Unbroken, List.dropLast_concat]

/-- A round that was carried out is one more that the stream has made. -/
theorem stands_concat {rounds : List StreamRound} {r : StreamRound} {slices : Nat}
    (hr : ∀ r ∈ rounds, r.goesOn = true)
    (hc : w.calls = callsOf 0 rounds ++ r.calls (entriesOf rounds).length)
    (hp : w.point = r.next slices ((entriesOf rounds).length + r.entries.length)) :
    w.Stands (rounds ++ [r]) := by
  refine .between ?_ ?_ ?_ (unbroken_concat hr r) ?_
  · rw [hp, StreamRound.next]
    split <;> rfl
  · rw [hp, StreamRound.next]
    split <;> simp [StreamPoint.handedOn, entriesOf]
  · rw [hc, callsOf_concat, Nat.zero_add]
  · rw [hp, StreamRound.next]
    split
    · next hgoes =>
      refine .inr fun a ha => ?_
      rcases List.mem_append.1 ha with ha | ha
      · exact hr a ha
      · rwa [List.mem_singleton.1 ha]
    · exact .inl rfl

theorem Stands.step {rounds : List StreamRound} (h : w.Stands rounds) :
    (w.step e).Stands rounds ∨ ∃ r, (w.step e).Stands (rounds ++ [r]) := by
  cases h with
  | underway part within made goesOn =>
    rcases within.step (e := e) made with ⟨part', hc, h', -⟩ | ⟨r, hc, hp⟩
    · exact .inl (.underway part' h' hc goesOn)
    · exact .inr ⟨r, stands_concat goesOn hc hp⟩
  | between outside count made unbroken goesOn =>
    left
    unfold StreamTrace.step
    cases hp : w.point with
    | asking seq | reading seq index length | offering seq index length entry
    | trimming seq index | leaving seq index => rw [hp] at outside; cases outside
    | ended seq =>
      rw [hp] at count
      exact .between rfl count made unbroken (.inl rfl)
    | checking seq =>
      rw [hp] at count goesOn
      obtain rfl : seq = (entriesOf rounds).length := count
      have hgoes := goesOn.resolve_left (by simp [StreamPoint.isEnded])
      simp only [StreamPoint.step, host]
      by_cases hs : e.isStopped w.clock = true
      · simp only [hs, if_true]
        exact .between rfl rfl made unbroken (.inl rfl)
      · simp only [hs]
        exact .underway [] ⟨rfl, rfl⟩ (made.trans (List.append_nil _).symm) hgoes
    | pausing seq left =>
      rw [hp] at count goesOn
      have hgoes := goesOn.resolve_left (by simp [StreamPoint.isEnded])
      cases left with
      | zero => exact .between rfl count made unbroken (.inr hgoes)
      | succ left =>
        simp only [StreamPoint.step, host]
        by_cases hs : e.isStopped w.clock = true
        · simp only [hs, if_true]
          exact .between rfl count made unbroken (.inl rfl)
        · simp only [hs]
          exact .between rfl count made unbroken (.inr hgoes)

theorem stands_run (e : Encounter) (n : Nat) : ∃ rounds, (run e n initial).Stands rounds := by
  induction n with
  | zero => exact ⟨[], stands_initial⟩
  | succ n ih =>
    obtain ⟨rounds, h⟩ := ih
    rcases h.step (e := e) with h | ⟨r, h⟩
    · exact ⟨rounds, h⟩
    · exact ⟨_, h⟩

/-- What a stream has called is the calls of its rounds, the last one perhaps not to its end. -/
theorem Stands.exists_rounds {rounds : List StreamRound} (h : w.Stands rounds) (e : Encounter) :
    ∃ made, Unbroken made ∧
      if w.point.isInRound = true then
        callsOf 0 made.dropLast <+: w.calls ∧ w.calls <+: callsOf 0 made
      else w.calls = callsOf 0 made ∧
        (w.point.isEnded = true ∨ ∀ r ∈ made, r.goesOn = true) := by
  cases h with
  | between outside count made unbroken goesOn =>
    refine ⟨rounds, unbroken, ?_⟩
    rw [outside, if_neg Bool.false_ne_true]
    exact ⟨made, goesOn⟩
  | underway part within made goesOn =>
    -- the calls of the round under way start those of the round as it will be carried out
    obtain ⟨m, -, r, hc, -⟩ := within.completes e made
    refine ⟨rounds ++ [r], unbroken_concat goesOn r, ?_⟩
    rw [within.isInRound, if_pos rfl, List.dropLast_concat, callsOf_concat, Nat.zero_add, ← hc]
    exact ⟨⟨part, made.symm⟩, calls_prefix_run e m w⟩

/-- The consumer has got what was read, unless the last record is still to be handed on. -/
theorem Stands.received {rounds : List StreamRound} (h : w.Stands rounds) :
    ∃ entries, (readsOf w.calls = entries ∨ ∃ entry, readsOf w.calls = entries ++ [entry]) ∧
      receivedOf w.calls = numbered 0 entries := by
  cases h with
  | between outside count made unbroken goesOn =>
    refine ⟨entriesOf rounds, .inl ?_, ?_⟩
    · rw [made, readsOf_callsOf]
    · rw [made, receivedOf_callsOf]
  | underway part within made goesOn =>
    have happend (entries : List LogEntry) :
        numbered 0 (entriesOf rounds) ++ numbered (entriesOf rounds).length entries =
          numbered 0 (entriesOf rounds ++ entries) := by
      rw [numbered_append, Nat.zero_add]
    rcases within.received with hall | ⟨entries, entry, hread, hgot⟩
    · refine ⟨entriesOf rounds ++ readsOf part, .inl ?_, ?_⟩
      · rw [made, readsOf_append, readsOf_callsOf]
      · rw [made, receivedOf_append, receivedOf_callsOf, hall, happend]
    · refine ⟨entriesOf rounds ++ entries, .inr ⟨entry, ?_⟩, ?_⟩
      · rw [made, readsOf_append, readsOf_callsOf, hread, List.append_assoc]
      · rw [made, receivedOf_append, receivedOf_callsOf, hgot, happend]

/-- A stream that has ended has handed on all that it read, and tells how many records it was. -/
theorem Stands.handedOn {rounds : List StreamRound} {seq : Nat} (h : w.Stands rounds)
    (hp : w.point = .ended seq) :
    seq = (readsOf w.calls).length ∧ receivedOf w.calls = numbered 0 (readsOf w.calls) := by
  cases h with
  | underway part within made goesOn =>
    rw [hp] at within
    exact within.elim
  | between outside count made unbroken goesOn =>
    rw [hp] at count
    have hread : readsOf w.calls = entriesOf rounds := by rw [made, readsOf_callsOf]
    rw [hread, made, receivedOf_callsOf]
    exact ⟨count, rfl⟩

/-! ## Requests to stop -/

theorem Encounter.isStopped_mono {n m : Nat} (h : e.isStopped n = true) (hm : n ≤ m) :
    e.isStopped m = true := by
  simp only [Encounter.isStopped, Option.any_eq_true_iff_get, decide_eq_true_eq] at h ⊢
  obtain ⟨hs, hn⟩ := h
  exact ⟨hs, Nat.le_trans hn hm⟩

theorem step_ended {seq : Nat} (h : w.point = .ended seq) :
    (w.step e).point = .ended seq ∧ (w.step e).calls = w.calls := by
  unfold StreamTrace.step
  rw [h]
  exact ⟨rfl, rfl⟩

/-- A stream that has ended calls nothing more. -/
theorem run_of_ended {seq : Nat} (h : w.point = .ended seq) (m : Nat) :
    (run e m w).point = .ended seq ∧ (run e m w).calls = w.calls := by
  induction m with
  | zero => exact ⟨h, rfl⟩
  | succ m ih =>
    obtain ⟨hp, hc⟩ := ih
    obtain ⟨hp', hc'⟩ := step_ended (e := e) hp
    exact ⟨hp', hc'.trans hc⟩

/-- Between two rounds, a request to stop ends the stream without another call. -/
theorem exists_ended (hs : e.isStopped w.clock = true) (hp : w.point.isInRound = false) :
    ∃ m, (run e m w).point = .ended w.point.handedOn ∧ (run e m w).calls = w.calls := by
  have hlook {seq : Nat} {w : StreamTrace} (hs : e.isStopped w.clock = true)
      (h : w.point = .checking seq ∨ ∃ left, w.point = .pausing seq (left + 1)) :
      (w.step e).point = .ended seq ∧ (w.step e).calls = w.calls := by
    unfold StreamTrace.step
    rcases h with h | ⟨left, h⟩ <;> simp [h, StreamPoint.step, host, hs]
  cases h : w.point with
  | asking seq | reading seq index length | offering seq index length entry
  | trimming seq index | leaving seq index => rw [h] at hp; cases hp
  | ended seq => exact ⟨0, h, rfl⟩
  | checking seq => exact ⟨1, hlook hs (.inl h)⟩
  | pausing seq left =>
    cases left with
    | succ left => exact ⟨1, hlook hs (.inr ⟨left, h⟩)⟩
    | zero =>
      have hstep : (w.step e).point = .checking seq ∧ (w.step e).calls = w.calls := by
        unfold StreamTrace.step
        rw [h]
        exact ⟨rfl, rfl⟩
      have hs' : e.isStopped (w.step e).clock = true := by
        rw [clock_step]
        exact Encounter.isStopped_mono hs (Nat.le_succ _)
      obtain ⟨hp', hc'⟩ := hlook hs' (.inl hstep.1)
      exact ⟨2, hp', hc'.trans hstep.2⟩

/-- A request to stop ends the stream, after the round that has begun. -/
theorem Stands.exists_ended {rounds : List StreamRound} (h : w.Stands rounds)
    (hs : e.isStopped w.clock = true) :
    ∃ m made, (run e m w).point.isEnded = true ∧ (run e m w).calls = callsOf 0 made ∧
      Unbroken made ∧
      if w.point.isInRound = true then callsOf 0 made.dropLast <+: w.calls
      else w.calls = callsOf 0 made := by
  cases h with
  | between outside count made unbroken goesOn =>
    obtain ⟨m, hp, hc⟩ := StreamTrace.exists_ended hs outside
    refine ⟨m, rounds, by rw [hp]; rfl, hc.trans made, unbroken, ?_⟩
    rwa [outside, if_neg Bool.false_ne_true]
  | underway part within made goesOn =>
    obtain ⟨m, slices, r, hc, hp⟩ := within.completes e made
    have hround := stands_concat goesOn hc hp
    have hs' : e.isStopped (run e m w).clock = true := by
      rw [clock_run]
      exact Encounter.isStopped_mono hs (Nat.le_add_right _ _)
    have houtside : (run e m w).point.isInRound = false := by
      rw [hp, StreamRound.next]
      split <;> rfl
    obtain ⟨k, hp', hc'⟩ := StreamTrace.exists_ended hs' houtside
    refine ⟨m + k, rounds ++ [r], ?_, ?_, unbroken_concat goesOn r, ?_⟩
    · rw [run_add, hp']
      rfl
    · rw [run_add, hc', hc, callsOf_concat, Nat.zero_add]
    · rw [within.isInRound, if_pos rfl, List.dropLast_concat, made]
      exact List.prefix_append _ _

/-- **The calls of a stream, whatever it meets.** At every moment they are those of some rounds, each
of which is made of the calls that belong to it; only the last one may be under way, and only the
last one may be one that ends the stream. The consumer gets each record right after it is read, with
the number of those read before. A stream that has ended has carried out its last round, counts what
it read, and calls nothing more. A request to stop lets the round that has begun be carried out, and
no other one begins. -/
theorem rounds_run (e : Encounter) (n : Nat) :
    let w := run e n initial
    (∃ rounds, Unbroken rounds ∧
      if w.point.isInRound = true then
        callsOf 0 rounds.dropLast <+: w.calls ∧ w.calls <+: callsOf 0 rounds
      else w.calls = callsOf 0 rounds ∧
        (w.point.isEnded = true ∨ ∀ r ∈ rounds, r.goesOn = true)) ∧
    (∃ entries, (readsOf w.calls = entries ∨ ∃ entry, readsOf w.calls = entries ++ [entry]) ∧
      receivedOf w.calls = numbered 0 entries) ∧
    (∀ seq, w.point = .ended seq →
      seq = (readsOf w.calls).length ∧ receivedOf w.calls = numbered 0 (readsOf w.calls) ∧
      ∀ m, (run e m w).point = .ended seq ∧ (run e m w).calls = w.calls) ∧
    (e.stopAt = some n → ∃ m rounds, Unbroken rounds ∧
      (∀ k, (run e (m + k) w).point.isEnded = true ∧
        (run e (m + k) w).calls = callsOf 0 rounds) ∧
      if w.point.isInRound = true then callsOf 0 rounds.dropLast <+: w.calls
      else w.calls = callsOf 0 rounds) := by
  intro w
  obtain ⟨rounds, h⟩ := stands_run e n
  have hclock : w.clock = n := (clock_run e n initial).trans (Nat.zero_add n)
  refine ⟨h.exists_rounds e, h.received, fun seq hp => ?_, fun hstop => ?_⟩
  · obtain ⟨hseq, hgot⟩ := h.handedOn hp
    exact ⟨hseq, hgot, run_of_ended hp⟩
  · have hs : e.isStopped w.clock = true := by simp [Encounter.isStopped, hstop, hclock]
    obtain ⟨m, made, hended, hc, hmade, hround⟩ := h.exists_ended hs
    refine ⟨m, made, hmade, fun k => ?_, hround⟩
    cases hp : (run e m w).point with
    | ended seq =>
      obtain ⟨hp', hc'⟩ := run_of_ended (e := e) hp k
      rw [run_add, hp', hc']
      exact ⟨rfl, hc⟩
    | _ => rw [hp] at hended; cases hended

/-- A request to stop that is made while a round is under way: its two records are handed on and
dropped, and nothing more is asked. -/
example :
    let e : Encounter :=
      ⟨fun _ => some 2, fun n _ => ⟨n, "a"⟩, fun _ _ => true, fun _ => 0, some 3⟩
    (run e 20 initial).point = .ended 2 ∧
      (run e 20 initial).calls = callsOf 0 [.whole [⟨2, "a"⟩] ⟨4, "a"⟩] := by decide

end StreamTrace

end ProxyControl
