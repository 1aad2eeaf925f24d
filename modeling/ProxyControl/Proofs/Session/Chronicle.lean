import ProxyControl.Proofs.Session.Grammar

/-!
# Chronicles of sessions

At every moment the events fall into sessions that have ended and one that may be under way. The
records that the log stream of the latest session handed on are those that the session has told of
and those that are in the queue, and before the session ends the latter are told of too: the end of
the start call may be in the queue before them, but the session waits for its log stream and takes
all that is there.

## Main definitions

* `Tableau.Standing`: what holds of a tableau by its phase, with the records in the queue
* `Tableau.Chronicle`: how the events fall into sessions

## Main results

* `Tableau.Chronicle.step`: every step keeps a chronicle
* `Scene.chronicle_run`: every run has a chronicle
* `Scene.delivered_run`: the lines of each session are the records of its log stream
-/

set_option autoImplicit false

namespace ProxyControl

namespace Scene

theorem advanceStream_generation (answers : StreamAnswers) (r : RunningStream) :
    (advanceStream answers r).1.generation = r.generation := rfl

/-- A log stream that has ended does nothing more. -/
theorem advanceStream_of_isEnded (answers : StreamAnswers) {r : RunningStream}
    (h : r.point.isEnded = true) : advanceStream answers r = (r, []) := by
  obtain ⟨generation, point, stopRequested⟩ := r
  cases point with
  | ended seq => rfl
  | _ => cases h

/-- A step of a log stream hands on at most one record, which gets the next number. -/
theorem advanceStream_sent (answers : StreamAnswers) (r : RunningStream) :
    (advanceStream answers r).2 = [] ∨
      ∃ entry, (advanceStream answers r).2 = [⟨r.point.handedOn, entry⟩] := by
  obtain ⟨generation, point, stopRequested⟩ := r
  cases point with
  | asking seq =>
    simp only [advanceStream, StreamPoint.step, streamHost]
    rcases answers.length with _ | _ | n <;> exact .inl rfl
  | offering seq index length entry => exact .inr ⟨entry, rfl⟩
  | pausing seq left => cases left <;> exact .inl rfl
  | _ => exact .inl rfl

/-- A log stream counts what it hands on. -/
theorem advanceStream_handedOn (answers : StreamAnswers) (r : RunningStream) :
    (advanceStream answers r).1.point.handedOn =
      r.point.handedOn + (advanceStream answers r).2.length := by
  obtain ⟨generation, point, stopRequested⟩ := r
  cases point with
  | checking seq => cases stopRequested <;> rfl
  | asking seq =>
    simp only [advanceStream, StreamPoint.step, streamHost]
    rcases answers.length with _ | _ | n <;> rfl
  | offering seq index length entry =>
    by_cases h : index + 1 < length <;>
      simp [advanceStream, StreamPoint.step, streamHost, StreamPoint.handedOn, h]
  | pausing seq left => cases left <;> cases stopRequested <;> rfl
  | _ => rfl

end Scene

namespace Tableau

/-- The records that the log stream of a generation handed on. -/
def handedBy (t : Tableau) (generation : Nat) : List LogRecord :=
  (t.handed.filter (·.1 = generation)).map (·.2)

/-- The start call of a generation in flight, or its return in the queue, and the records that are
in the queue beside it. -/
inductive Underway (generation : Nat) : List Nat → List Message → List LogRecord → Prop
  /-- The start call has not returned. -/
  | calling (pending : List LogRecord) :
    Underway generation [generation] (pending.map (.log generation)) pending
  /-- The start call has returned. -/
  | returned (before : List LogRecord) (status : Status) (after : List LogRecord) :
    Underway generation []
      (before.map (.log generation) ++ .exited generation status :: after.map (.log generation))
      (before ++ after)

/-- The latest log stream is that of the latest session, it counts what it handed on, and all
earlier ones have ended. -/
inductive Streaming (t : Tableau) : Prop
  | intro {latest : RunningStream} {earlier : List RunningStream}
    (streams : t.streams = latest :: earlier) (current : latest.generation = t.generation)
    (count : latest.point.handedOn = (t.handedBy t.generation).length)
    (ended : ∀ r ∈ earlier, r.point.isEnded = true)

/-- What holds of a tableau by its phase, where `pending` are the records in the queue. -/
inductive Standing (t : Tableau) : List LogRecord → Prop
  /-- There is no session, and nothing is left of earlier ones. -/
  | stopped (phase : t.phase = .stopped) (stage : t.stage = .receiving)
    (holds : t.holdsStream = false) (calls : t.calls = []) (traffic : t.traffic = [])
    (ended : ∀ r ∈ t.streams, r.point.isEnded = true) : Standing t []
  /-- The engine was called, and there is no log stream yet. -/
  | starting (phase : t.phase = .starting) (stage : t.stage = .receiving)
    (holds : t.holdsStream = false) (underway : Underway t.generation t.calls t.traffic [])
    (ended : ∀ r ∈ t.streams, r.point.isEnded = true) (silent : t.handedBy t.generation = []) :
    Standing t []
  /-- The engine is serving, or its start call has returned and the session does not know it. -/
  | serving {pending : List LogRecord} (phase : t.phase = .running ∨ t.phase = .stopping)
    (stage : t.stage = .receiving) (holds : t.holdsStream = true)
    (underway : Underway t.generation t.calls t.traffic pending) (streaming : t.Streaming) :
    Standing t pending
  /-- The log stream was given up, and what it sent is taken. -/
  | ending {pending : List LogRecord} (status : Status)
    (phase : t.phase = .running ∨ t.phase = .stopping) (stage : t.stage = .draining status)
    (holds : t.holdsStream = false) (calls : t.calls = [])
    (traffic : t.traffic = pending.map (.log t.generation)) (streaming : t.Streaming) :
    Standing t pending

variable {t u : Tableau} {pending : List LogRecord}

/-- A request to stop does not move the latest log stream. -/
theorem Streaming.askStop (h : t.Streaming) (hs : u.streams = Scene.askStop t.streams)
    (hg : u.generation = t.generation) (hh : u.handed = t.handed) : u.Streaming := by
  obtain ⟨streams, current, count, ended⟩ := h
  rw [streams] at hs
  refine ⟨hs, current.trans hg.symm, ?_, ended⟩
  rw [count, handedBy, handedBy, hh, hg]

theorem Streaming.congr (h : t.Streaming) (hs : u.streams = t.streams)
    (hg : u.generation = t.generation) (hh : u.handed = t.handed) : u.Streaming := by
  obtain ⟨streams, current, count, ended⟩ := h
  refine ⟨hs.trans streams, current.trans hg.symm, ?_, ended⟩
  rw [count, handedBy, handedBy, hh, hg]

/-- Once the latest log stream has ended, all have. -/
theorem Streaming.ended (h : t.Streaming)
    (hj : ∀ latest earlier, t.streams = latest :: earlier → latest.point.isEnded = true) :
    ∀ r ∈ t.streams, r.point.isEnded = true := by
  obtain ⟨streams, -, -, ended⟩ := h
  intro r hr
  rw [streams] at hr
  rcases List.mem_cons.1 hr with rfl | hr
  · exact hj _ _ streams
  · exact ended r hr

/-- The start call of a session that is under way returns. -/
theorem Underway.giveBack {generation g : Nat} {calls : List Nat} {traffic : List Message}
    (h : Underway generation calls traffic pending) (status : Status) (hg : g ∈ calls) :
    Underway generation (calls.erase g) (traffic ++ [.exited g status]) pending := by
  cases h with
  | calling =>
    obtain rfl := List.mem_singleton.1 hg
    have hr : Underway g [] _ _ := .returned pending status []
    simpa using hr
  | returned => cases hg

/-- A record that is handed on joins those in the queue. -/
theorem Underway.send {generation : Nat} {calls : List Nat} {traffic : List Message}
    (h : Underway generation calls traffic pending) (records : List LogRecord) :
    Underway generation calls (traffic ++ records.map (.log generation)) (pending ++ records) := by
  cases h with
  | calling =>
    rw [← List.map_append]
    exact .calling _
  | returned before status after =>
    rw [List.append_assoc, List.append_assoc, List.cons_append, ← List.map_append]
    exact .returned before status (after ++ records)

/-- What is taken first while a start call is under way: a record, or the return of the call. -/
theorem Underway.take {generation : Nat} {calls : List Nat} {m : Message} {rest : List Message}
    (h : Underway generation calls (m :: rest) pending) :
    (∃ r more, m = .log generation r ∧ pending = r :: more ∧
        Underway generation calls rest more) ∨
      ∃ status, m = .exited generation status ∧ calls = [] ∧
        rest = pending.map (.log generation) := by
  generalize hm : m :: rest = traffic at h
  cases h with
  | calling =>
    cases pending with
    | nil => cases hm
    | cons r more =>
      obtain ⟨rfl, rfl⟩ := List.cons.inj hm
      exact .inl ⟨r, more, rfl, rfl, .calling more⟩
  | returned before status after =>
    cases before with
    | nil =>
      obtain ⟨rfl, rfl⟩ := List.cons.inj hm
      exact .inr ⟨status, rfl, rfl, rfl⟩
    | cons r before =>
      obtain ⟨rfl, rfl⟩ := List.cons.inj hm
      exact .inl ⟨r, before ++ after, rfl, rfl, .returned before status after⟩

/-- The tableau after a step of a log stream. -/
def advanced (t : Tableau) (index : Nat) (r : RunningStream) (answers : StreamAnswers) : Tableau :=
  { t with
    streams := t.streams.set index (Scene.advanceStream answers r).1
    handed := t.handed ++ (Scene.advanceStream answers r).2.map (r.generation, ·)
    traffic := t.traffic ++ (Scene.advanceStream answers r).2.map (.log r.generation) }

theorem handedBy_advanced (t : Tableau) (index : Nat) (r : RunningStream)
    (answers : StreamAnswers) (generation : Nat) :
    (t.advanced index r answers).handedBy generation = t.handedBy generation ++
      if generation = r.generation then (Scene.advanceStream answers r).2 else [] := by
  simp only [advanced, handedBy, List.filter_append, List.map_append]
  congr 1
  by_cases hg : generation = r.generation
  · simp [hg, List.filter_map, Function.comp_def]
  · simp [hg, List.filter_map, Function.comp_def, Ne.symm hg]

/-- A log stream that has ended does nothing more. -/
theorem advanced_of_isEnded {index : Nat} {r : RunningStream} (answers : StreamAnswers)
    (hr : t.streams[index]? = some r) (he : r.point.isEnded = true) :
    t.advanced index r answers = t := by
  obtain ⟨hi, hr⟩ := List.getElem?_eq_some_iff.1 hr
  have hset : t.streams.set index r = t.streams := by
    rw [← hr]
    exact List.set_getElem_self hi
  simp [advanced, Scene.advanceStream_of_isEnded answers he, hset]

namespace Standing

theorem tell (h : t.Standing pending) (events : List SessionEvent) :
    (t.tell events).Standing pending := by
  cases h with
  | stopped phase stage holds calls traffic ended =>
    exact .stopped phase stage holds calls traffic ended
  | starting phase stage holds underway ended silent =>
    exact .starting phase stage holds underway ended silent
  | serving phase stage holds underway streaming =>
    exact .serving phase stage holds underway (streaming.congr rfl rfl rfl)
  | ending status phase stage holds calls traffic streaming =>
    exact .ending status phase stage holds calls traffic (streaming.congr rfl rfl rfl)

theorem stop (h : t.Standing pending) (hp : t.phase = .running) :
    Standing { t with
      phase := .stopping
      streams := if t.holdsStream then Scene.askStop t.streams else t.streams } pending := by
  cases h with
  | stopped phase => cases hp.symm.trans phase
  | starting phase => cases hp.symm.trans phase
  | serving phase stage holds underway streaming =>
    refine .serving (.inr rfl) stage holds underway (streaming.askStop ?_ rfl rfl)
    simp [holds]
  | ending status phase stage holds calls traffic streaming =>
    refine .ending status (.inr rfl) stage holds calls traffic (streaming.congr ?_ rfl rfl)
    simp [holds]

theorem ready (h : t.Standing pending) (hp : t.phase = .starting) :
    Standing { t with
      phase := .running
      holdsStream := true
      streams := ⟨t.generation, .initial, false⟩ :: t.streams } pending := by
  cases h with
  | stopped phase => cases hp.symm.trans phase
  | starting phase stage holds underway ended silent =>
    exact .serving (.inl rfl) stage rfl underway
      ⟨rfl, rfl, (congrArg List.length silent).symm, ended⟩
  | serving phase => simp [hp] at phase
  | ending status phase => simp [hp] at phase

/-- A message of another session is never in the queue. -/
theorem generation_of_mem (h : t.Standing pending) {m : Message} (hm : m ∈ t.traffic) :
    m.generation = t.generation := by
  -- while a start call is under way, all messages are its own
  have hu {calls : List Nat} {traffic : List Message} {pending : List LogRecord}
      (hu : Underway t.generation calls traffic pending) (hm : m ∈ traffic) :
      m.generation = t.generation := by
    cases hu with
    | calling =>
      obtain ⟨r, -, rfl⟩ := List.mem_map.1 hm
      rfl
    | returned before status after =>
      rcases List.mem_append.1 hm with hm | hm
      · obtain ⟨r, -, rfl⟩ := List.mem_map.1 hm
        rfl
      · rcases List.mem_cons.1 hm with rfl | hm
        · rfl
        · obtain ⟨r, -, rfl⟩ := List.mem_map.1 hm
          rfl
  cases h with
  | stopped _ _ _ _ traffic =>
    rw [traffic] at hm
    cases hm
  | starting _ _ _ underway => exact hu underway hm
  | serving _ _ _ underway => exact hu underway hm
  | ending _ _ _ _ _ traffic =>
    rw [traffic] at hm
    obtain ⟨r, -, rfl⟩ := List.mem_map.1 hm
    rfl

/-- A record in the queue is taken while the engine is serving, or after its log stream was given
up. -/
theorem record (h : t.Standing pending) {r : LogRecord} {rest : List Message}
    (ht : t.traffic = .log t.generation r :: rest) :
    (t.phase = .running ∨ t.phase = .stopping) ∧
      ∃ more, pending = r :: more ∧ Standing { t with traffic := rest } more := by
  cases h with
  | stopped _ _ _ _ traffic => cases ht.symm.trans traffic
  | starting _ _ _ underway =>
    rw [ht] at underway
    rcases underway.take with ⟨_, _, _, hp, _⟩ | ⟨_, hm, _⟩
    · cases hp
    · cases hm
  | serving phase stage holds underway streaming =>
    rw [ht] at underway
    rcases underway.take with ⟨r', more, hr, rfl, hu⟩ | ⟨_, hm, _⟩
    · cases hr
      exact ⟨phase, more, rfl, .serving phase stage holds hu (streaming.congr rfl rfl rfl)⟩
    · cases hm
  | ending status phase stage holds calls traffic streaming =>
    rw [ht] at traffic
    cases pending with
    | nil => cases traffic
    | cons r' more =>
      obtain ⟨hr, htr⟩ := List.cons.inj traffic
      cases hr
      exact ⟨phase, more, rfl, .ending status phase stage holds calls htr
        (streaming.congr rfl rfl rfl)⟩

/-- The log stream is given up when the return of the start call is taken. -/
theorem close (h : t.Standing pending) {status : Status} {rest : List Message}
    (ht : t.traffic = .exited t.generation status :: rest) (hh : t.holdsStream = true) :
    t.phase ≠ .stopped ∧
      Standing { t with
        stage := .draining status
        holdsStream := false
        traffic := rest
        streams := Scene.askStop t.streams } pending := by
  cases h with
  | stopped _ _ _ _ traffic => cases ht.symm.trans traffic
  | starting _ _ holds => cases hh.symm.trans holds
  | serving phase stage holds underway streaming =>
    rw [ht] at underway
    rcases underway.take with ⟨_, _, hm, _⟩ | ⟨_, _, hc, hr⟩
    · cases hm
    · exact ⟨Phase.ne_stopped_of_serving phase,
        .ending status phase rfl rfl hc hr (streaming.askStop rfl rfl rfl)⟩
  | ending _ _ _ holds => cases hh.symm.trans holds

/-- The session ends at once only if the engine was never ready. -/
theorem finish (h : t.Standing pending) {status : Status} {rest : List Message}
    (ht : t.traffic = .exited t.generation status :: rest)
    (hh : t.stage = .receiving → t.holdsStream = false) :
    t.phase = .starting ∧ pending = [] ∧
      Standing { t with phase := .stopped, traffic := rest } [] := by
  cases h with
  | stopped _ _ _ _ traffic => cases ht.symm.trans traffic
  | starting phase stage holds underway ended silent =>
    rw [ht] at underway
    rcases underway.take with ⟨_, _, _, hp, _⟩ | ⟨_, _, hc, hr⟩
    · cases hp
    · exact ⟨phase, rfl, .stopped rfl stage holds hc hr ended⟩
  | serving _ stage holds => cases (hh stage).symm.trans holds
  | ending _ _ _ _ _ traffic =>
    rw [ht] at traffic
    cases pending <;> cases traffic

/-- The session ends after its log stream when nothing of that is in the queue. -/
theorem conclude (h : t.Standing pending) {status : Status} (hs : t.stage = .draining status)
    (ht : t.traffic = [])
    (hj : ∀ latest earlier, t.streams = latest :: earlier → latest.point.isEnded = true) :
    (t.phase = .running ∨ t.phase = .stopping) ∧ pending = [] ∧
      Standing { t with phase := .stopped, stage := .receiving } [] := by
  cases h with
  | stopped _ stage => cases hs.symm.trans stage
  | starting _ stage => cases hs.symm.trans stage
  | serving _ stage => cases hs.symm.trans stage
  | ending status phase stage holds calls traffic streaming =>
    rw [ht] at traffic
    exact ⟨phase, List.map_eq_nil_iff.1 traffic.symm,
      .stopped rfl rfl holds calls ht (streaming.ended hj)⟩

theorem giveBack (h : t.Standing pending) {generation : Nat} (status : Status)
    (hc : generation ∈ t.calls) :
    t.phase ≠ .stopped ∧
      Standing { t with
        calls := t.calls.erase generation
        traffic := t.traffic ++ [.exited generation status] } pending := by
  cases h with
  | stopped _ _ _ calls =>
    rw [calls] at hc
    cases hc
  | starting phase stage holds underway ended silent =>
    exact ⟨by simp [phase], .starting phase stage holds (underway.giveBack status hc) ended silent⟩
  | serving phase stage holds underway streaming =>
    exact ⟨Phase.ne_stopped_of_serving phase,
      .serving phase stage holds (underway.giveBack status hc) (streaming.congr rfl rfl rfl)⟩
  | ending _ _ _ _ calls =>
    rw [calls] at hc
    cases hc

theorem abort (h : t.Standing pending) (hp : t.phase = .stopped) :
    Standing { t with generation := t.generation + 1 } [] := by
  cases h with
  | stopped phase stage holds calls traffic ended =>
    exact .stopped phase stage holds calls traffic ended
  | starting phase => cases hp.symm.trans phase
  | serving phase => simp [hp] at phase
  | ending _ phase => simp [hp] at phase

/-- A log stream that has not ended is the latest one, of the session under way. -/
theorem runs (h : t.Standing pending) {index : Nat} {r : RunningStream}
    (hr : t.streams[index]? = some r) (he : r.point.isEnded = false) :
    (t.phase = .running ∨ t.phase = .stopping) ∧ index = 0 ∧ r.generation = t.generation ∧
      r.point.handedOn = (t.handedBy t.generation).length := by
  have hmem := List.mem_of_getElem? hr
  have hstream (hs : t.Streaming) : index = 0 ∧ r.generation = t.generation ∧
      r.point.handedOn = (t.handedBy t.generation).length := by
    obtain ⟨streams, current, count, ended⟩ := hs
    rw [streams] at hr
    cases index with
    | zero =>
      obtain rfl := Option.some.inj hr
      exact ⟨rfl, current, count⟩
    | succ index =>
      have hend := ended r (List.mem_of_getElem? (by simpa using hr))
      cases he.symm.trans hend
  cases h with
  | stopped _ _ _ _ _ ended => cases he.symm.trans (ended r hmem)
  | starting _ _ _ _ ended => cases he.symm.trans (ended r hmem)
  | serving phase _ _ _ streaming => exact ⟨phase, hstream streaming⟩
  | ending _ phase _ _ _ _ streaming => exact ⟨phase, hstream streaming⟩

theorem advance (h : t.Standing pending) {index : Nat} {r : RunningStream}
    (answers : StreamAnswers) (hr : t.streams[index]? = some r) (he : r.point.isEnded = false) :
    (t.advanced index r answers).Standing (pending ++ (Scene.advanceStream answers r).2) := by
  obtain ⟨-, hi, hg, hn⟩ := h.runs hr he
  have hstream (hs : t.Streaming) : (t.advanced index r answers).Streaming := by
    obtain ⟨streams, current, count, ended⟩ := hs
    refine ⟨(?_ : _ = (Scene.advanceStream answers r).1 :: _), ?_, ?_, ended⟩
    · simp [advanced, streams, hi]
    · exact (Scene.advanceStream_generation answers r).trans hg
    · rw [Scene.advanceStream_handedOn, hn, handedBy_advanced, List.length_append]
      simp [advanced, hg]
  cases h with
  | stopped _ _ _ _ _ ended =>
    cases he.symm.trans (ended r (List.mem_of_getElem? hr))
  | starting _ _ _ _ ended => cases he.symm.trans (ended r (List.mem_of_getElem? hr))
  | serving phase stage holds underway streaming =>
    refine .serving phase stage holds ?_ (hstream streaming)
    simp only [advanced, hg]
    exact underway.send _
  | ending status phase stage holds calls traffic streaming =>
    refine .ending status phase stage holds calls ?_ (hstream streaming)
    simp [advanced, hg, traffic]

end Standing

/-- How the events fall into sessions that have ended and the one that may be under way, which has
told of the records `seen`. -/
structure Chronicle (failure : Prop) (t : Tableau) (sessions : List (List SessionEvent))
    (last : List SessionEvent) (seen pending : List LogRecord) : Prop where
  /-- What holds by the phase. -/
  standing : t.Standing pending
  /-- The events are those of the sessions. -/
  events : t.events = sessions.flatten ++ last
  /-- The sessions that have ended are complete. -/
  whole : ∀ l ∈ sessions, IsSession l ∨ failure ∧ l = abortedEvents
  /-- The session under way looks as its phase says. -/
  opened : Opened t.phase last
  /-- Each session has a generation. -/
  count : t.generation = sessions.length + if t.phase = .stopped then 0 else 1
  /-- The session under way tells of the records that were taken. -/
  shown : engineLines last = shownLines seen
  /-- Its log stream handed on those and the ones in the queue. -/
  current : t.phase ≠ .stopped → t.handedBy t.generation = seen ++ pending
  /-- The sessions that have ended told of all records. -/
  delivered : ∀ i l, sessions[i]? = some l → engineLines l = shownLines (t.handedBy (i + 1))
  /-- Log streams number what they hand on. -/
  numbered : ∀ generation,
    (t.handedBy generation).map (·.seq) = List.range (t.handedBy generation).length
  /-- Sessions to come have handed on nothing. -/
  fresh : ∀ generation, t.generation < generation → t.handedBy generation = []

namespace Chronicle

variable {failure : Prop} {t u : Tableau} {sessions : List (List SessionEvent)}
  {last : List SessionEvent} {seen pending : List LogRecord}

/-- The session under way comes after those that have ended. -/
theorem generation_eq (h : t.Chronicle failure sessions last seen pending)
    (hp : t.phase ≠ .stopped) : t.generation = sessions.length + 1 := by
  rw [h.count, if_neg hp]

theorem length_lt_generation (h : t.Chronicle failure sessions last seen pending)
    (hp : t.phase ≠ .stopped) : sessions.length < t.generation :=
  Nat.lt_of_succ_le (Nat.le_of_eq (h.generation_eq hp).symm)

theorem generation_eq_of_stopped (h : t.Chronicle failure sessions last seen pending)
    (hp : t.phase = .stopped) : t.generation = sessions.length := by
  rw [h.count, if_pos hp, Nat.add_zero]

theorem launch (h : t.Chronicle failure sessions last seen pending) (hp : t.phase = .stopped) :
    Chronicle failure { t.tell [.changed .stopped .starting] with
      phase := .starting
      generation := t.generation + 1
      calls := t.calls ++ [t.generation + 1] }
      sessions [.changed .stopped .starting] [] [] where
  standing := by
    have hsilent := h.fresh (t.generation + 1) (Nat.lt_succ_self _)
    rcases h.standing with ⟨_, hs, hh, hc, ht, he⟩ | ⟨hp', _⟩ | ⟨hp', _⟩ | ⟨_, hp', _⟩
    · refine .starting rfl hs hh ?_ he hsilent
      simp only [tell, hc, ht]
      exact .calling []
    all_goals simp [hp] at hp'
  events := by
    have hl := h.opened
    rw [hp] at hl
    simp [tell, h.events, hl.eq_nil]
  whole := h.whole
  opened := .starting (by simp)
  count := congrArg (· + 1) (h.generation_eq_of_stopped hp)
  shown := rfl
  current _ := h.fresh (t.generation + 1) (Nat.lt_succ_self _)
  delivered := h.delivered
  numbered := h.numbered
  fresh generation hg := h.fresh generation (Nat.lt_of_succ_lt hg)

/-- The session under way goes on: it tells more, and takes the records `more`. -/
theorem goOn (h : t.Chronicle failure sessions last seen pending) {extra : List SessionEvent}
    {more left : List LogRecord} (hs : u.Standing left) (hp : t.phase ≠ .stopped)
    (hu : u.phase ≠ .stopped) (hg : u.generation = t.generation) (hh : u.handed = t.handed)
    (he : u.events = t.events ++ extra) (ho : Opened u.phase (last ++ extra))
    (hl : engineLines extra = shownLines more) (hm : pending = more ++ left) :
    u.Chronicle failure sessions (last ++ extra) (seen ++ more) left where
  standing := hs
  events := by rw [he, h.events, List.append_assoc]
  whole := h.whole
  opened := ho
  count := by rw [if_neg hu, hg, h.generation_eq hp]
  shown := by rw [engineLines_append, shownLines_append, h.shown, hl]
  current _ := by
    have hc := h.current hp
    rw [handedBy] at hc ⊢
    rw [hh, hg, hc, hm, List.append_assoc]
  delivered := by
    simp only [handedBy, hh]
    exact h.delivered
  numbered := by
    simp only [handedBy, hh]
    exact h.numbered
  fresh := by
    simp only [handedBy, hh, hg]
    exact h.fresh

/-- A session has ended, with the events `l`. -/
theorem ended (h : t.Chronicle failure sessions last seen pending) {l : List SessionEvent}
    (hs : u.Standing []) (hu : u.phase = .stopped) (hg : u.generation = sessions.length + 1)
    (hle : t.generation ≤ u.generation) (hh : u.handed = t.handed)
    (he : u.events = sessions.flatten ++ l) (hw : IsSession l ∨ failure ∧ l = abortedEvents)
    (hl : engineLines l = shownLines (t.handedBy u.generation)) :
    u.Chronicle failure (sessions ++ [l]) [] [] [] where
  standing := hs
  events := by simpa using he
  whole k hk := by
    rcases List.mem_append.1 hk with hk | hk
    · exact h.whole k hk
    · rwa [List.mem_singleton.1 hk]
  opened := by
    rw [hu]
    exact .stopped
  count := by simp [hg, hu]
  shown := rfl
  current hn := absurd hu hn
  delivered := by
    simp only [handedBy, hh]
    intro i k hk
    rw [List.getElem?_append] at hk
    split at hk
    · exact h.delivered i k hk
    · next hi =>
      obtain ⟨hj, rfl⟩ := List.getElem?_eq_some_iff.1 hk
      have hi' : i + 1 = u.generation := by
        simp only [List.length_singleton] at hj
        omega
      rw [hi', List.getElem_singleton]
      exact hl
  numbered := by
    simp only [handedBy, hh]
    exact h.numbered
  fresh generation hlt := by
    simp only [handedBy, hh]
    exact h.fresh generation (Nat.lt_of_le_of_lt hle hlt)

theorem busy (h : t.Chronicle failure sessions last seen pending) (hp : t.phase ≠ .stopped) :
    (t.tell [busyEvent]).Chronicle failure sessions (last ++ [busyEvent]) (seen ++ []) pending :=
  h.goOn (h.standing.tell _) hp hp rfl rfl rfl (h.opened.busy hp) rfl rfl

theorem stop (h : t.Chronicle failure sessions last seen pending) (hp : t.phase = .running) :
    Chronicle failure { t.tell [.changed .running .stopping] with
      phase := .stopping
      streams := if t.holdsStream then Scene.askStop t.streams else t.streams }
      sessions (last ++ [.changed .running .stopping]) (seen ++ []) pending := by
  have ho := h.opened
  rw [hp] at ho
  have hstop := (h.standing.tell [.changed .running .stopping]).stop hp
  exact h.goOn hstop (by simp [hp]) (by simp) rfl rfl rfl (.stopping ho (by simp)) rfl rfl

theorem ready (h : t.Chronicle failure sessions last seen pending) (nickname : String)
    (hp : t.phase = .starting) :
    Chronicle failure { t.tell (openingEvents nickname) with
      phase := .running
      holdsStream := true
      streams := ⟨t.generation, .initial, false⟩ :: t.streams }
      sessions (last ++ openingEvents nickname) (seen ++ []) pending := by
  have ho := h.opened
  rw [hp] at ho
  have hrun : Opened .running (last ++ openingEvents nickname ++ []) :=
    .running nickname ho (by simp)
  rw [List.append_nil] at hrun
  have hready := (h.standing.tell (openingEvents nickname)).ready hp
  exact h.goOn hready (by simp [hp]) (by simp) rfl rfl rfl hrun rfl rfl

theorem record (h : t.Chronicle failure sessions last seen pending) {r : LogRecord}
    {rest : List Message} (ht : t.traffic = .log t.generation r :: rest) :
    ∃ more, Chronicle failure { t.tell (recordEvents r) with traffic := rest }
      sessions (last ++ recordEvents r) (seen ++ [r]) more := by
  obtain ⟨hp, more, rfl, hs⟩ := h.standing.record ht
  have hne := Phase.ne_stopped_of_serving hp
  have ho : Opened t.phase (last ++ recordEvents r) :=
    h.opened.chat hp fun e he => isChatter_of_mem_recordEvents he
  exact ⟨more, h.goOn (hs.tell _) hne hne rfl rfl rfl ho (engineLines_recordEvents r) rfl⟩

/-- A step that tells nothing while a session is under way. -/
theorem silent (h : t.Chronicle failure sessions last seen pending) (hs : u.Standing pending)
    (hp : t.phase ≠ .stopped) (hu : u.phase = t.phase) (hg : u.generation = t.generation)
    (hh : u.handed = t.handed) (he : u.events = t.events) :
    u.Chronicle failure sessions (last ++ []) (seen ++ []) pending := by
  refine h.goOn hs hp (hu ▸ hp) hg hh (by simpa using he) ?_ rfl rfl
  rw [hu, List.append_nil]
  exact h.opened

theorem finish (h : t.Chronicle failure sessions last seen pending) {status : Status}
    {rest : List Message} (final : Status) (ht : t.traffic = .exited t.generation status :: rest)
    (hh : t.stage = .receiving → t.holdsStream = false) :
    Chronicle failure { t.tell (closingEvents t.phase final) with
      phase := .stopped
      traffic := rest }
      (sessions ++ [last ++ closingEvents t.phase final]) [] [] [] := by
  obtain ⟨hp, rfl, hs⟩ := h.standing.finish ht hh
  have hne : t.phase ≠ .stopped := by simp [hp]
  have ho := h.opened
  have hcur := h.current hne
  rw [hp] at ho
  rw [List.append_nil] at hcur
  -- the engine was never ready, so no record is left to tell of
  refine h.ended (hs.tell _) rfl (h.generation_eq hne) (Nat.le_refl _) rfl ?_ (.inl ?_) ?_
  · simp [tell, h.events]
  · rw [hp]
    exact .neverReady final ho
  · simp [tell, h.shown, hcur]

theorem conclude (h : t.Chronicle failure sessions last seen pending) {status : Status}
    (final : Status) (hs : t.stage = .draining status) (ht : t.traffic = [])
    (hj : ∀ latest earlier, t.streams = latest :: earlier → latest.point.isEnded = true) :
    Chronicle failure { t.tell (loggingStopped :: closingEvents t.phase final) with
      phase := .stopped
      stage := .receiving }
      (sessions ++ [last ++ loggingStopped :: closingEvents t.phase final]) [] [] [] := by
  obtain ⟨hp, rfl, hstand⟩ := h.standing.conclude hs ht hj
  have hne := Phase.ne_stopped_of_serving hp
  have hc := h.generation_eq hne
  have hcur := h.current hne
  rw [List.append_nil] at hcur
  -- the log stream has ended and its records were taken, so all of them were told of
  refine h.ended (hstand.tell _) rfl hc (Nat.le_refl _) rfl ?_ (.inl (.ready final hp h.opened)) ?_
  · simp [tell, h.events]
  · have hl : engineLines (loggingStopped :: closingEvents t.phase final) = [] :=
      engineLines_closingEvents t.phase final
    rw [engineLines_append, hl, List.append_nil, h.shown]
    simp [tell, hcur]

theorem abort (h : t.Chronicle failure sessions last seen pending) (hf : failure)
    (hp : t.phase = .stopped) :
    Chronicle failure { t.tell abortedEvents with generation := t.generation + 1 }
      (sessions ++ [abortedEvents]) [] [] [] := by
  have hc := h.generation_eq_of_stopped hp
  have ho := h.opened
  rw [hp] at ho
  have hfresh : t.handedBy (t.generation + 1) = [] := h.fresh _ (Nat.lt_succ_self _)
  refine h.ended ((h.standing.abort hp).tell _) hp ?_ (Nat.le_succ _) rfl ?_ (.inr ⟨hf, rfl⟩) ?_
  · simp [hc]
  · simp [tell, h.events, ho.eq_nil]
  · simp only [hfresh]
    rfl

/-- A step of a log stream that has not ended. -/
theorem advance (h : t.Chronicle failure sessions last seen pending) {index : Nat}
    {r : RunningStream} (answers : StreamAnswers) (hr : t.streams[index]? = some r)
    (he : r.point.isEnded = false) :
    Chronicle failure (t.advanced index r answers)
      sessions last seen (pending ++ (Scene.advanceStream answers r).2) := by
  obtain ⟨hp, hi, hg, hn⟩ := h.standing.runs hr he
  have hby (g : Nat) : (t.advanced index r answers).handedBy g =
      t.handedBy g ++ if g = t.generation then (Scene.advanceStream answers r).2 else [] := by
    rw [handedBy_advanced, hg]
  have hne := Phase.ne_stopped_of_serving hp
  exact {
    standing := h.standing.advance answers hr he
    events := h.events
    whole := h.whole
    opened := h.opened
    count := h.count
    shown := h.shown
    current := fun _ => by
      have hs := hby t.generation
      rw [if_pos rfl, h.current hne, List.append_assoc] at hs
      exact hs
    delivered := fun i l hl => by
      have hlt : i < sessions.length := (List.getElem?_eq_some_iff.1 hl).1
      have hc := h.generation_eq hne
      rw [hby, if_neg (by omega), List.append_nil]
      exact h.delivered i l hl
    numbered := fun g => by
      rw [hby]
      split
      · next hgen =>
        subst hgen
        rcases Scene.advanceStream_sent answers r with hs | ⟨entry, hs⟩
        · rw [hs, List.append_nil]
          exact h.numbered _
        · rw [hs, List.map_append, h.numbered, hn]
          simp [List.range_succ]
      · rw [List.append_nil]
        exact h.numbered g
    fresh := fun g hlt => by
      have hgt : g ≠ t.generation := Nat.ne_of_gt hlt
      rw [hby, if_neg hgt, List.append_nil]
      exact h.fresh g hlt }

/-- **Every step keeps a chronicle.** -/
theorem step {note : Note} (h : t.Chronicle failure sessions last seen pending)
    (hs : t.Step failure note u) :
    ∃ sessions last seen pending, u.Chronicle failure sessions last seen pending := by
  cases hs with
  | stay => exact ⟨_, _, _, _, h⟩
  | launch hp => exact ⟨_, _, _, _, h.launch hp⟩
  | abort hf hp => exact ⟨_, _, _, _, h.abort hf hp⟩
  | busy hp => exact ⟨_, _, _, _, h.busy hp⟩
  | stop hp => exact ⟨_, _, _, _, h.stop hp⟩
  | ready nickname hp => exact ⟨_, _, _, _, h.ready nickname hp⟩
  | record ht =>
    obtain ⟨more, hm⟩ := h.record ht
    exact ⟨_, _, _, _, hm⟩
  | @stale m rest ht hm =>
    -- there is no such message, as each session ends with an empty queue
    have hmem : m ∈ t.traffic := by rw [ht]; exact List.mem_cons_self
    exact absurd (h.standing.generation_of_mem hmem) hm
  | close ht _ hh =>
    obtain ⟨hp, hstand⟩ := h.standing.close ht hh
    exact ⟨_, _, _, _, h.silent hstand hp rfl rfl rfl rfl⟩
  | finish final ht hh => exact ⟨_, _, _, _, h.finish final ht hh⟩
  | conclude final hs ht hj => exact ⟨_, _, _, _, h.conclude final hs ht hj⟩
  | giveBack status hc =>
    obtain ⟨hp, hstand⟩ := h.standing.giveBack status hc
    exact ⟨_, _, _, _, h.silent hstand hp rfl rfl rfl rfl⟩
  | @advance index r answers hr =>
    cases he : r.point.isEnded with
    | true =>
      refine ⟨sessions, last, seen, pending, ?_⟩
      have ht := advanced_of_isEnded answers hr he
      rw [advanced] at ht
      rwa [ht]
    | false => exact ⟨_, _, _, _, h.advance answers hr he⟩

end Chronicle

end Tableau

namespace Scene

variable {W : Type}

/-- The records that the log stream of a generation handed on. -/
def handedBy (c : Scene W) (generation : Nat) : List LogRecord := c.tableau.handedBy generation

theorem chronicle_idle (failure : Prop) (store : ProfileStore W) (options : SessionOptions)
    (w : W) :
    (idle store options w).tableau.Chronicle failure [] [] [] [] where
  standing := .stopped rfl rfl rfl rfl rfl (by simp [idle, tableau, tableauOf])
  events := rfl
  whole := by simp
  opened := .stopped
  count := rfl
  shown := rfl
  current h := absurd rfl h
  delivered := by simp
  numbered _ := rfl
  fresh _ _ := rfl

/-- Actions keep a chronicle, one after another. -/
theorem chronicle_act {failure : Prop} {c : Scene W} {sessions : List (List SessionEvent)}
    {last : List SessionEvent} {seen pending : List LogRecord}
    (h : c.tableau.Chronicle failure sessions last seen pending) (hr : c.session.requests = [])
    (actions : List Action) (hf : ∀ a ∈ actions, a.Fails → failure) :
    ∃ sessions last seen pending,
      (c.run actions).tableau.Chronicle failure sessions last seen pending := by
  induction actions generalizing c sessions last seen pending with
  | nil => exact ⟨_, _, _, _, h⟩
  | cons a actions ih =>
    obtain ⟨_, _, _, _, ha⟩ := h.step (act_step hr a (hf a List.mem_cons_self))
    exact ih ha (requests_act hr a) fun b hb => hf b (List.mem_cons_of_mem a hb)

/-- **Every run has a chronicle.** -/
theorem chronicle_run (failure : Prop) (store : ProfileStore W) (options : SessionOptions) (w : W)
    (actions : List Action) (hf : ∀ a ∈ actions, a.Fails → failure) :
    ∃ sessions last seen pending, ((idle store options w).run actions).tableau.Chronicle failure
      sessions last seen pending :=
  chronicle_act (chronicle_idle failure store options w) rfl actions hf

/-- **The records of a run.** The events of every run are those of sessions, one a generation. A
session that has ended tells of the records that its log stream handed on, of those that are worth
showing and in the order of their numbers, and of no others; if it was ready, it tells that logging
stopped after all of these. A session under way has told of all but the records in the queue. -/
theorem delivered_run (store : ProfileStore W) (options : SessionOptions) (w : W)
    (actions : List Action) :
    let c := (idle store options w).run actions
    ∃ (sessions : List (List SessionEvent)) (last : List SessionEvent),
      c.events = sessions.flatten ++ last ∧
      (∀ l ∈ sessions, IsSession l ∨ l = abortedEvents) ∧
      Opened c.session.phase last ∧
      (∀ i l, sessions[i]? = some l →
        engineLines l = shownLines (c.handedBy (i + 1)) ∧
        ∀ nickname, .started nickname ∈ l → ∃ before after,
          l = before ++ loggingStopped :: after ∧ loggingStopped ∉ before ∧
            engineLines after = []) ∧
      (c.session.phase ≠ .stopped → c.session.generation = sessions.length + 1 ∧
        ∃ pending, engineLines last ++ shownLines pending =
          shownLines (c.handedBy c.session.generation)) ∧
      ∀ generation, (c.handedBy generation).map (·.seq) =
        List.range (c.handedBy generation).length := by
  intro c
  obtain ⟨sessions, last, seen, pending, h⟩ := chronicle_run True store options w
    actions fun _ _ _ => trivial
  refine ⟨sessions, last, h.events, fun l hl => (h.whole l hl).imp_right And.right, h.opened,
    fun i l hl => ⟨h.delivered i l hl, fun nickname hn => ?_⟩, fun hp => ⟨?_, pending, ?_⟩,
    h.numbered⟩
  · rcases h.whole l (List.mem_of_getElem? hl) with hw | ⟨-, rfl⟩
    · exact hw.logging_stopped hn
    · simp [abortedEvents] at hn
  · exact h.generation_eq hp
  · rw [h.shown, ← shownLines_append, ← h.current hp]
    rfl

end Scene

end ProxyControl
