import ProxyControl.Engine.Child
import ProxyControl.Engine.Memory

/-!
# The records of a running session

An engine holds the records of its session, and they are counted, read and dropped by index. What
these calls are meant to do is told by a backlog: all records that were pushed in the session, and
how many of them were dropped, from the oldest on. Here the engine in memory and the process engine
are asked any number of such calls, with whatever else may happen in a session in between.

Both engines answer as the backlog does, except that they drop nothing when they are asked to drop
the records through an index at which there is none. All records that are held come before such an
index, so they were all to be dropped. A log stream never asks for this, since it drops only what it
has read.

## Main definitions

* `RecordCall`, `RecordAnswer`: what an engine is asked in a session, and what it answers
* `RecordDesk`: how the states of a type are asked
* `Backlog`, `Backlog.desk`: the records of a session, and what the calls are meant to do
* `Backlog.guardedDesk`: the calls, where nothing is dropped through an index at which there is no
  record
* `RecordDesk.Lists`: desks whose calls are those on a list of records
* `RecordDesk.Accounts`: how far calls are answered as they are meant to be

## Main results

* `Backlog.run_guardedDesk`: the two desks of a backlog agree as long as no index is beyond the last
  record
* `RecordDesk.Lists.serve`, `RecordDesk.Lists.run`: what a call keeps, and what a run keeps
* `records_run`: the calls in a session of either engine
* `undropped_beyond`: records that are kept although all of them were to be dropped
-/

set_option autoImplicit false

namespace ProxyControl

/-- What an engine is asked while it serves a session. -/
inductive RecordCall (Errand : Type) where
  | push (entry : LogEntry)
  | length
  | read (index : Nat)
  | deleteSince (index : Nat)
  /-- Something that is not about the records of the session. -/
  | errand (errand : Errand)

/-- What an engine answers about its records. -/
inductive RecordAnswer where
  /-- How many are held, or nothing where the log is closed. -/
  | length (held : Option Nat)
  | record (entry : LogEntry)
  deriving DecidableEq, Repr

/-- How the states of a type are asked. -/
structure RecordDesk (Errand S : Type) where
  push : LogEntry → S → S
  length : S → Option Nat
  read : Nat → S → LogEntry
  deleteSince : Nat → S → S
  errand : Errand → S → S

namespace RecordDesk

variable {Errand S : Type}

/-- A call, and what is answered to it. -/
def serve (d : RecordDesk Errand S) (s : S) : RecordCall Errand → List RecordAnswer × S
  | .push entry => ([], d.push entry s)
  | .length => ([.length (d.length s)], s)
  | .read index => ([.record (d.read index s)], s)
  | .deleteSince index => ([], d.deleteSince index s)
  | .errand errand => ([], d.errand errand s)

/-- Calls one after the other, and all that is answered. -/
def run (d : RecordDesk Errand S) (s : S) : List (RecordCall Errand) → List RecordAnswer × S
  | [] => ([], s)
  | call :: calls =>
    let rest := d.run (d.serve s call).2 calls
    ((d.serve s call).1 ++ rest.1, rest.2)

end RecordDesk

/-! ## What the calls are meant to do -/

/-- The records of a session. -/
structure Backlog where
  /-- All that were pushed, the oldest first. -/
  pushed : List LogEntry
  /-- How many of them were dropped. -/
  dropped : Nat
  deriving DecidableEq, Repr

namespace Backlog

variable {Errand : Type} {b : Backlog}

/-- The records that are held. -/
def records (b : Backlog) : List LogEntry := b.pushed.drop b.dropped

/-- How many records are held. -/
def held (b : Backlog) : Nat := b.pushed.length - b.dropped

/-- One more record. -/
def push (entry : LogEntry) (b : Backlog) : Backlog := { b with pushed := b.pushed ++ [entry] }

/-- The record at an index among those that are held, blank where there is none. -/
def read (index : Nat) (b : Backlog) : LogEntry := b.pushed[b.dropped + index]?.getD .blank

/-- Each record up to and including the one at an index dropped. -/
def deleteSince (index : Nat) (b : Backlog) : Backlog :=
  { b with dropped := b.dropped + min (index + 1) b.held }

/-- The calls as they are meant. -/
def desk : RecordDesk Errand Backlog where
  push := push
  length b := some b.held
  read := read
  deleteSince := deleteSince
  errand _ b := b

/-- The calls, where nothing is dropped through an index at which there is no record. -/
def guardedDesk : RecordDesk Errand Backlog :=
  { desk with deleteSince := fun index b => if index < b.held then b.deleteSince index else b }

/-- Whether a call does not drop records through an index beyond the last one. -/
def IsWithin (b : Backlog) : RecordCall Errand → Prop
  | .deleteSince index => index < b.held ∨ b.held = 0
  | _ => True

instance (b : Backlog) (call : RecordCall Errand) : Decidable (b.IsWithin call) :=
  match call with
  | .deleteSince index => inferInstanceAs (Decidable (index < b.held ∨ b.held = 0))
  | .push _ | .length | .read _ | .errand _ => .isTrue trivial

/-- Whether none of some calls, one after the other, drops records through such an index. -/
def AreWithin (b : Backlog) : List (RecordCall Errand) → Prop
  | [] => True
  | call :: calls => b.IsWithin call ∧ (desk.serve b call).2.AreWithin calls

instance decidableAreWithin (b : Backlog) :
    (calls : List (RecordCall Errand)) → Decidable (b.AreWithin calls)
  | [] => .isTrue trivial
  | call :: calls =>
    have := decidableAreWithin (desk.serve b call).2 calls
    inferInstanceAs (Decidable (b.IsWithin call ∧ (desk.serve b call).2.AreWithin calls))

theorem length_records (b : Backlog) : b.records.length = b.held := List.length_drop

theorem records_eq_nil_iff : b.records = [] ↔ b.held = 0 := by
  rw [← List.length_eq_zero_iff, length_records]

/-- Where no records are held there are none to drop. -/
theorem deleteSince_of_held_eq_zero (h : b.held = 0) (index : Nat) : b.deleteSince index = b := by
  rw [deleteSince, h, Nat.min_zero, Nat.add_zero]

/-- Through an index beyond the last record, all are to be dropped. -/
theorem records_deleteSince_of_le {index : Nat} (h : b.held ≤ index) :
    (b.deleteSince index).records = [] := by
  have hmin : min (index + 1) b.held = b.held := Nat.min_eq_right (Nat.le_succ_of_le h)
  have hpushed : b.pushed.length ≤ b.dropped + b.held := by
    rw [held]
    omega
  rw [records, deleteSince, hmin]
  exact List.drop_eq_nil_of_le hpushed

theorem serve_guardedDesk {call : RecordCall Errand} (h : b.IsWithin call) :
    guardedDesk.serve b call = desk.serve b call := by
  cases call with
  | deleteSince index =>
    simp only [RecordDesk.serve, guardedDesk, desk]
    split
    · rfl
    · next hbeyond =>
      have hnone : b.held = 0 := h.resolve_left hbeyond
      rw [deleteSince_of_held_eq_zero hnone]
  | _ => rfl

/-- **The two desks agree** as long as no index is beyond the last record. -/
theorem run_guardedDesk {calls : List (RecordCall Errand)} (h : b.AreWithin calls) :
    guardedDesk.run b calls = desk.run b calls := by
  induction calls generalizing b with
  | nil => rfl
  | cons call calls ih =>
    obtain ⟨hcall, hcalls⟩ := h
    simp only [RecordDesk.run, serve_guardedDesk hcall, ih hcalls]

end Backlog

/-! ## Desks that hold a list of records -/

/-- Whether a log holds the records of a backlog. -/
structure Backlog.IsHeldBy (b : Backlog) (log : HeldLog) : Prop where
  eq : log = b.records
  dropped_le : b.dropped ≤ b.pushed.length

namespace Backlog.IsHeldBy

variable {b : Backlog} {log : HeldLog}

theorem length_eq (h : b.IsHeldBy log) : log.length = b.held := by
  rw [h.eq, length_records]

theorem push (h : b.IsHeldBy log) (entry : LogEntry) :
    (b.push entry).IsHeldBy (log ++ [entry]) where
  eq := by
    rw [h.eq]
    exact (List.drop_append_of_le_length h.dropped_le).symm
  dropped_le := Nat.le_trans h.dropped_le (by simp [Backlog.push])

theorem read_eq (h : b.IsHeldBy log) (index : Nat) : log.read index = b.read index := by
  rw [HeldLog.read, h.eq, records, List.getElem?_drop]
  rfl

theorem deleteSince (h : b.IsHeldBy log) {index : Nat} (hindex : index < b.held) :
    (b.deleteSince index).IsHeldBy (log.dropThrough index) where
  eq := by
    rw [HeldLog.dropThrough_of_lt (h.length_eq ▸ hindex), h.eq, records, List.drop_drop, records,
      Backlog.deleteSince, Nat.min_eq_left hindex]
  dropped_le := by
    have hle := h.dropped_le
    rw [held] at hindex
    simp only [Backlog.deleteSince, held]
    omega

end Backlog.IsHeldBy

namespace RecordDesk

variable {Errand S : Type}

/-- Desks whose calls are those on a list of records, as long as a session is served. -/
structure Lists (d : RecordDesk Errand S) (isServing : S → Prop) (logs : S → HeldLog) : Prop where
  push : ∀ entry s, isServing s →
    isServing (d.push entry s) ∧ logs (d.push entry s) = logs s ++ [entry]
  length : ∀ s, isServing s → d.length s = some (logs s).length
  read : ∀ index s, d.read index s = (logs s).read index
  deleteSince : ∀ index s, isServing s →
    isServing (d.deleteSince index s) ∧ logs (d.deleteSince index s) = (logs s).dropThrough index
  errand : ∀ errand s, isServing s →
    isServing (d.errand errand s) ∧ logs (d.errand errand s) = logs s

namespace Lists

variable {d : RecordDesk Errand S} {isServing : S → Prop} {logs : S → HeldLog} {s : S} {b : Backlog}

/-- What a call answers, and what it keeps: the cases are the calls. -/
theorem serve (h : d.Lists isServing logs) (hs : isServing s) (hb : b.IsHeldBy (logs s))
    (call : RecordCall Errand) :
    (d.serve s call).1 = (Backlog.guardedDesk.serve b call).1 ∧ isServing (d.serve s call).2 ∧
      (Backlog.guardedDesk.serve b call).2.IsHeldBy (logs (d.serve s call).2) := by
  cases call with
  | push entry =>
    obtain ⟨hs', hlogs⟩ := h.push entry s hs
    refine ⟨rfl, hs', ?_⟩
    simp only [RecordDesk.serve, hlogs]
    exact hb.push entry
  | length =>
    refine ⟨?_, hs, hb⟩
    simp only [RecordDesk.serve, h.length s hs, hb.length_eq]
    rfl
  | read index =>
    refine ⟨?_, hs, hb⟩
    simp only [RecordDesk.serve, h.read, hb.read_eq]
    rfl
  | deleteSince index =>
    obtain ⟨hs', hlogs⟩ := h.deleteSince index s hs
    refine ⟨rfl, hs', ?_⟩
    simp only [RecordDesk.serve, Backlog.guardedDesk, hlogs]
    split
    · next hindex => exact hb.deleteSince hindex
    · next hbeyond =>
      rw [HeldLog.dropThrough_of_le (hb.length_eq ▸ Nat.not_lt.1 hbeyond)]
      exact hb
  | errand errand =>
    obtain ⟨hs', hlogs⟩ := h.errand errand s hs
    refine ⟨rfl, hs', ?_⟩
    simp only [RecordDesk.serve, hlogs]
    exact hb

theorem run (h : d.Lists isServing logs) (hs : isServing s) (hb : b.IsHeldBy (logs s))
    (calls : List (RecordCall Errand)) :
    (d.run s calls).1 = (Backlog.guardedDesk.run b calls).1 ∧ isServing (d.run s calls).2 ∧
      (Backlog.guardedDesk.run b calls).2.IsHeldBy (logs (d.run s calls).2) := by
  induction calls generalizing s b with
  | nil => exact ⟨rfl, hs, hb⟩
  | cons call calls ih =>
    obtain ⟨hanswer, hs', hb'⟩ := h.serve hs hb call
    obtain ⟨hanswers, hrest⟩ := ih hs' hb'
    refine ⟨?_, hrest⟩
    rw [RecordDesk.run, RecordDesk.run, hanswer, hanswers]

end Lists

/-- How far calls are answered as they are meant to be, from a state on whose records are those of a
backlog. -/
structure Accounts (d : RecordDesk Errand S) (logs : S → HeldLog) (s : S) (b : Backlog)
    (calls : List (RecordCall Errand)) : Prop where
  /-- Whatever the indices are, the calls are answered as by a backlog of which nothing is dropped
  through an index at which there is no record. -/
  guarded : (d.run s calls).1 = (Backlog.guardedDesk.run b calls).1 ∧
    logs (d.run s calls).2 = (Backlog.guardedDesk.run b calls).2.records
  /-- If no index is beyond the last record, they are answered as they are meant to be. -/
  meant : b.AreWithin calls →
    (d.run s calls).1 = (Backlog.desk.run b calls).1 ∧
      logs (d.run s calls).2 = (Backlog.desk.run b calls).2.records
  /-- The first index beyond the last record keeps all records, of which none were to be kept. -/
  beyond : b.AreWithin calls → ∀ index,
    ¬(Backlog.desk.run b calls).2.IsWithin (.deleteSince index : RecordCall Errand) →
    logs (d.deleteSince index (d.run s calls).2) = logs (d.run s calls).2 ∧
      logs (d.run s calls).2 ≠ [] ∧
      ((Backlog.desk.run b calls).2.deleteSince index).records = []

theorem Lists.accounts {d : RecordDesk Errand S} {isServing : S → Prop} {logs : S → HeldLog}
    (h : d.Lists isServing logs) {s : S} {b : Backlog} (hs : isServing s)
    (hb : b.IsHeldBy (logs s)) (calls : List (RecordCall Errand)) : d.Accounts logs s b calls := by
  obtain ⟨hanswers, hserving, hheld⟩ := h.run hs hb calls
  refine ⟨⟨hanswers, hheld.eq⟩, fun hwithin => ?_, fun hwithin index hbeyond => ?_⟩
  · rw [← Backlog.run_guardedDesk hwithin]
    exact ⟨hanswers, hheld.eq⟩
  · rw [Backlog.run_guardedDesk hwithin] at hheld
    obtain ⟨hindex, hsome⟩ := not_or.1 hbeyond
    have hindex := Nat.not_lt.1 hindex
    refine ⟨?_, ?_, Backlog.records_deleteSince_of_le hindex⟩
    · rw [(h.deleteSince index _ hserving).2,
        HeldLog.dropThrough_of_le (hheld.length_eq ▸ hindex)]
    · rw [hheld.eq]
      exact mt Backlog.records_eq_nil_iff.1 hsome

end RecordDesk

/-! ## The engine in memory -/

namespace MemoryEngine

/-- What else may happen while the engine serves a session: it is asked to start another one, to end
this one, to switch the mode or inspection, or to fail later on. -/
inductive Errand where
  | start (now : Nat) (params : StartParams)
  | requestEnd (ending : Ending)
  | switchMode (constant : UInt32)
  | setMitm (on : Bool)
  | setFailCreation (fails : Bool)

/-- What an errand leads to. -/
def perform : Errand → MemoryEngine → MemoryEngine
  | .start now params, e => (e.start now params).2
  | .requestEnd ending, e => e.requestEnd ending
  | .switchMode constant, e => (e.switchMode constant).2
  | .setMitm on, e => e.setMitm on
  | .setFailCreation fails, e => e.setFailCreation fails

/-- The calls on the records of the engine. -/
def recordDesk : RecordDesk Errand MemoryEngine where
  push := push
  length := (engine 0).logLength
  read := (engine 0).logRead
  deleteSince := (engine 0).logDeleteSince
  errand := perform

theorem lists_recordDesk : recordDesk.Lists (·.running = true) (·.logs) where
  push entry e h := by simp [recordDesk, push, h]
  length e h := if_pos h
  read index e := rfl
  deleteSince index e h := ⟨h, rfl⟩
  errand errand e h := by
    cases errand with
    | start now params => simp [recordDesk, perform, start, h]
    | requestEnd ending =>
      simp only [recordDesk, perform, requestEnd]
      split <;> exact ⟨h, rfl⟩
    | switchMode constant => simp [recordDesk, perform, switchMode, h]
    | setMitm on => simp [recordDesk, perform, setMitm, h]
    | setFailCreation fails => exact ⟨h, rfl⟩

/-- The backlog with which a session begins: its first record is the one of the start. -/
def firstBacklog (now : Nat) (params : StartParams) : Backlog := ⟨[⟨now, greeting params⟩], 0⟩

theorem of_start_eq_serving {now : Nat} {params : StartParams} {e e' : MemoryEngine}
    (h : e.start now params = (.serving, e')) :
    e'.running = true ∧ (firstBacklog now params).IsHeldBy e'.logs := by
  simp only [start, Launch.refused, Launch.serving] at h
  split at h
  · simp at h
  · split at h
    · simp at h
    · obtain ⟨-, rfl⟩ := Prod.mk.inj h
      exact ⟨rfl, rfl, Nat.zero_le _⟩

end MemoryEngine

/-! ## The process engine -/

namespace ProcessEngine

/-- What else may happen while the engine serves a session: it is asked to start another one or to
stop, or the reader of an earlier session pushes a record. -/
inductive Errand where
  | launch (created : Except IoError String)
  | requestStop
  | pushEarlier (session : Nat) (entry : LogEntry)

/-- What an errand leads to. -/
def perform : Errand → ProcessEngine → ProcessEngine
  | .launch created, e => (e.launch created).2
  | .requestStop, e => e.requestStop.2
  | .pushEarlier session entry, e => if session < e.launches then e.push session entry else e

/-- The calls on the records of the engine, which are pushed by the readers of the session. -/
def recordDesk : RecordDesk Errand ProcessEngine where
  push entry e := e.push e.launches entry
  length := logLength
  read index e := e.logs.read index
  deleteSince index e := { e with logs := e.logs.dropThrough index }
  errand := perform

theorem lists_recordDesk : recordDesk.Lists (·.running = true) (·.logs) where
  push entry e h := by simp [recordDesk, push, h]
  length e h := if_pos h
  read index e := rfl
  deleteSince index e h := ⟨h, rfl⟩
  errand errand e h := by
    cases errand with
    | launch created => simp [recordDesk, perform, launch, h]
    | requestStop => simp [recordDesk, perform, requestStop, h]
    | pushEarlier session entry =>
      simp only [recordDesk, perform]
      split
      · next hearlier => simp [push, Nat.ne_of_lt hearlier, h]
      · exact ⟨h, rfl⟩

theorem of_launch_eq_serving {name : String} {e e' : ProcessEngine}
    (h : e.launch (.ok name) = (.serving, e')) :
    e'.running = true ∧ Backlog.IsHeldBy ⟨[], 0⟩ e'.logs := by
  simp only [launch, Launch.refused, Launch.serving] at h
  split at h
  · simp at h
  · obtain ⟨-, rfl⟩ := Prod.mk.inj h
    exact ⟨rfl, rfl, Nat.le_refl _⟩

end ProcessEngine

/-- The calls of an engine with children are those on the state that its calls share. -/
theorem ChildEngine.engine_recordDesk (e : ChildEngine) (index : Nat) :
    engine.logLength e = ProcessEngine.recordDesk.length e.shared ∧
      engine.logRead index e = ProcessEngine.recordDesk.read index e.shared ∧
      (engine.logDeleteSince index e).shared =
        ProcessEngine.recordDesk.deleteSince index e.shared :=
  ⟨rfl, rfl, rfl⟩

/-- **The calls on the records of a running session,** with whatever else happens in it, of the
engine in memory and of the process engine. The records that are held are those that were pushed
without as many as were dropped from the front, their number is never told as that of a closed log,
and a record that is not held is read as a blank one. To drop the records through an index drops
them as it is meant to, unless the index is beyond the last record that is held. -/
theorem records_run {now : Nat} {params : StartParams} {e e' : MemoryEngine}
    (he : e.start now params = (.serving, e')) {name : String} {p p' : ProcessEngine}
    (hp : p.launch (.ok name) = (.serving, p')) (calls : List (RecordCall MemoryEngine.Errand))
    (calls' : List (RecordCall ProcessEngine.Errand)) :
    MemoryEngine.recordDesk.Accounts (·.logs) e' (MemoryEngine.firstBacklog now params) calls ∧
      ProcessEngine.recordDesk.Accounts (·.logs) p' ⟨[], 0⟩ calls' := by
  obtain ⟨herun, heheld⟩ := MemoryEngine.of_start_eq_serving he
  obtain ⟨hprun, hpheld⟩ := ProcessEngine.of_launch_eq_serving hp
  exact ⟨MemoryEngine.lists_recordDesk.accounts herun heheld calls,
    ProcessEngine.lists_recordDesk.accounts hprun hpheld calls'⟩

/-- Parameters of a session. -/
def plainParams : StartParams := .ofProfile (.new "h:1") .log 0 ""

/-- Calls in a session of the engine in memory. -/
def stoppedCalls : List (RecordCall MemoryEngine.Errand) :=
  [.push ⟨7, "a"⟩, .errand (.requestEnd .stopped), .length, .deleteSince 0,
    .errand (.start 9 plainParams), .read 0, .read 7, .length]

/-- Calls in a session of the process engine, of which one drops records where there are none. -/
def emptiedCalls : List (RecordCall ProcessEngine.Errand) :=
  [.push ⟨7, "a"⟩, .push ⟨8, "b"⟩, .errand .requestStop, .deleteSince 1, .length,
    .deleteSince 18446744073709551615, .errand (.pushEarlier 0 ⟨3, "z"⟩), .push ⟨9, "c"⟩, .read 0]

theorem records_run_emptiedCalls :
    MemoryEngine.idle.start 5 plainParams = (.serving, (MemoryEngine.idle.start 5 plainParams).2) ∧
      ProcessEngine.idle.launch (.ok "engine:1") =
        (.serving, (ProcessEngine.idle.launch (.ok "engine:1")).2) ∧
      (MemoryEngine.recordDesk.run (MemoryEngine.idle.start 5 plainParams).2 stoppedCalls).1 =
        [.length (some 2), .record ⟨7, "a"⟩, .record .blank, .length (some 1)] ∧
      (ProcessEngine.recordDesk.run (ProcessEngine.idle.launch (.ok "engine:1")).2 emptiedCalls).1 =
        [.length (some 0), .record ⟨9, "c"⟩] := by
  obtain ⟨hmemory, hprocess⟩ :=
    records_run (rfl : MemoryEngine.idle.start 5 plainParams = (.serving, _))
      (rfl : ProcessEngine.idle.launch (.ok "engine:1") = (.serving, _)) stoppedCalls emptiedCalls
  exact ⟨rfl, rfl, (hmemory.meant (by decide)).1.trans (by decide),
    (hprocess.meant (by decide)).1.trans (by decide)⟩

/-- Calls that drop records through an index beyond the last one. -/
def beyondCalls (Errand : Type) : List (RecordCall Errand) :=
  [.push ⟨7, "a"⟩, .deleteSince 5, .length]

/-- All records were to be dropped, and all of them are still there. -/
theorem undropped_beyond :
    (MemoryEngine.recordDesk.run (MemoryEngine.idle.start 5 plainParams).2 (beyondCalls _)).1 =
        [.length (some 2)] ∧
      (Backlog.desk.run (MemoryEngine.firstBacklog 5 plainParams)
        (beyondCalls MemoryEngine.Errand)).1 = [.length (some 0)] ∧
      (ProcessEngine.recordDesk.run (ProcessEngine.idle.launch (.ok "engine:1")).2
        (beyondCalls _)).1 = [.length (some 1)] ∧
      (Backlog.desk.run ⟨[], 0⟩ (beyondCalls ProcessEngine.Errand)).1 = [.length (some 0)] := by
  decide

end ProxyControl
