import ProxyControl.Log.Record

/-!
# Log streams

A stream moves the records of an engine to a consumer. It works in rounds: it asks how many records
the engine holds, reads and hands on each of them in order, and then has the engine drop all of
them at once. A request to stop is noticed between rounds only, so a round once begun is carried
out; a consumer that takes no more records ends its round early, and what it saw is dropped. The
stream ends when the engine's log is closed.

The stream is a machine of small steps, each with at most one call to what is around it, so that
anything may happen between any two calls.

## Main definitions

* `StreamHost`: what a stream calls
* `StreamPoint`: where a stream is in its loop
* `StreamPoint.step`, `StreamPoint.run`: the loop
* `StreamPoint.round`: the loop from one pause to the next
-/

set_option autoImplicit false

namespace ProxyControl

/-- What a stream calls, in a world of type `W`. -/
structure StreamHost (W : Type) where
  /-- Whether the stream has been asked to stop. -/
  stopRequested : W → Bool × W
  /-- How many records the engine holds, or nothing when its log is closed. -/
  length : W → Option Nat × W
  /-- The record at an index. -/
  read : Nat → W → LogEntry × W
  /-- The records up to and including an index dropped. -/
  deleteSince : Nat → W → W
  /-- A record handed on, and whether the consumer takes more. -/
  offer : LogRecord → W → Bool × W

/-- Where a stream is in its loop. Every point tells how many records were handed on. -/
inductive StreamPoint where
  /-- About to look for a request to stop, before a round. -/
  | checking (seq : Nat)
  /-- About to ask how many records there are. -/
  | asking (seq : Nat)
  /-- About to read the record at `index` of `length`. -/
  | reading (seq index length : Nat)
  /-- About to hand on the record that was read at `index` of `length`. -/
  | offering (seq index length : Nat) (entry : LogEntry)
  /-- About to have all records of the round dropped, the last of which is at `index`. -/
  | trimming (seq index : Nat)
  /-- About to have the records dropped that a consumer saw which takes no more. -/
  | leaving (seq index : Nat)
  /-- Between rounds, with `slices` more looks for a request to stop. -/
  | pausing (seq slices : Nat)
  /-- At the end. -/
  | ended (seq : Nat)
  deriving DecidableEq, Repr

namespace StreamPoint

/-- The start of a stream. -/
def initial : StreamPoint := .checking 0

/-- How many records were handed on. -/
def handedOn : StreamPoint → Nat
  | .checking seq | .asking seq | .reading seq _ _ | .offering seq _ _ _ | .trimming seq _
  | .leaving seq _ | .pausing seq _ | .ended seq => seq

/-- Whether the stream is between two rounds. -/
def isPausing : StreamPoint → Bool
  | .pausing _ _ => true
  | _ => false

/-- Whether the stream has to wait before its next step. -/
def isResting : StreamPoint → Bool
  | .pausing _ (_ + 1) => true
  | _ => false

/-- Whether the stream has ended. -/
def isEnded : StreamPoint → Bool
  | .ended _ => true
  | _ => false

variable {W : Type}

/-- One step of a stream that looks `slices` times for a request to stop while it pauses. -/
def step (h : StreamHost W) (slices : Nat) : StreamPoint → W → StreamPoint × W
  | .checking seq, w =>
    let (stop, w) := h.stopRequested w
    (if stop then .ended seq else .asking seq, w)
  | .asking seq, w =>
    match h.length w with
    | (none, w) => (.ended seq, w)
    | (some 0, w) => (.pausing seq slices, w)
    | (some (n + 1), w) => (.reading seq 0 (n + 1), w)
  | .reading seq index length, w =>
    let (entry, w) := h.read index w
    (.offering seq index length entry, w)
  | .offering seq index length entry, w =>
    -- the record was seen even by a consumer that takes no more, and is dropped like those before
    let (more, w) := h.offer ⟨seq, entry⟩ w
    (if !more then .leaving (seq + 1) index
      else if index + 1 < length then .reading (seq + 1) (index + 1) length
      else .trimming (seq + 1) index, w)
  | .trimming seq index, w => (.pausing seq slices, h.deleteSince index w)
  | .leaving seq index, w => (.ended seq, h.deleteSince index w)
  | .pausing seq 0, w => (.checking seq, w)
  | .pausing seq (left + 1), w =>
    let (stop, w) := h.stopRequested w
    (if stop then .ended seq else .pausing seq left, w)
  | .ended seq, w => (.ended seq, w)

/-- At most so many steps of a stream, as long as it is at points that satisfy `p`. -/
def runWhile (h : StreamHost W) (slices : Nat) (p : StreamPoint → Bool) :
    Nat → StreamPoint → W → StreamPoint × W
  | 0, point, w => (point, w)
  | n + 1, point, w =>
    if p point then
      let (point, w) := point.step h slices w
      runWhile h slices p n point w
    else (point, w)

/-- At most so many steps of a stream. -/
def run (h : StreamHost W) (slices : Nat) (n : Nat) (point : StreamPoint) (w : W) :
    StreamPoint × W :=
  runWhile h slices (fun point => !point.isEnded) n point w

/-- A stream that pauses brought to its next pause or to its end, in at most so many steps before
the round and in it. -/
def round (h : StreamHost W) (slices : Nat) (n : Nat) (point : StreamPoint) (w : W) :
    StreamPoint × W :=
  let (point, w) := runWhile h slices isPausing n point w
  runWhile h slices (fun point => !point.isPausing && !point.isEnded) n point w

end StreamPoint

end ProxyControl
