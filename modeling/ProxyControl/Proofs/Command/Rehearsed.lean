import ProxyControl.Proofs.Command.ExitCode
import ProxyControl.Proofs.Session.Ensemble
import ProxyControl.Proofs.Session.Upkeep

/-!
# Sessions on the engine in memory

The engine in memory serves until it is asked to stop, and touches no file. So a session that is run
on it starts as soon as its messages are handled, goes on until the operator ends it, and has
stopped when its messages are handled next; it is never given up.

## Main definitions

* `Host.kept`: what only the caller changes
* `Host.Drifts`: what a log stream and a delayed switch change
* `Host.Stage`: how far a session is

## Main results

* `Host.Stage.handle`: a session that was asked to stop has stopped when its messages are handled
* `Host.Stage.tick`, `Host.Stage.stop`: the other steps of a session
-/

set_option autoImplicit false

namespace ProxyControl

namespace Host

variable {h h' h'' : Host MemoryEngine} {now : Nat} {stopSent : Bool}

/-! ## What only the caller changes -/

/-- What only the caller changes. -/
def kept (h : Host MemoryEngine) : Engine MemoryEngine × Disk × Nat × Mode × Bool :=
  (h.engine, h.disk, h.session.asked)

theorem kept_collect (h : Host MemoryEngine) : h.collect.kept = h.kept := by
  unfold collect
  split <;> rfl

theorem kept_perform (he : h.engine = MemoryEngine.engine now) (r : Request) :
    (h.perform r).kept = h.kept := by
  cases r with
  | launch generation params =>
    obtain ⟨engine, state, controller, disk, stream, inFlight, delayed, time, launches⟩ := h
    obtain rfl : engine = MemoryEngine.engine now := he
    unfold perform
    dsimp only
    split <;> split <;> rfl
  | stopEngine => exact kept_collect _
  | _ => rfl

theorem kept_performAll (he : h.engine = MemoryEngine.engine now) :
    h.performAll.kept = h.kept := by
  have hfold (requests : List Request) (h : Host MemoryEngine)
      (he : h.engine = MemoryEngine.engine now) : (requests.foldl perform h).kept = h.kept := by
    induction requests generalizing h with
    | nil => rfl
    | cons r requests ih =>
      have hr := kept_perform he r
      rw [List.foldl_cons, ih _ ((congrArg Prod.fst hr).trans he), hr]
  exact hfold _ _ he

theorem kept_handle (he : h.engine = MemoryEngine.engine now) : h.handle.kept = h.kept := by
  have hrequests := kept_performAll
    (h := h.mapSession fun s => s.handleQueue (h.engine.nickname h.state) []) he
  refine hrequests.trans ?_
  have hasked := Session.asked_handleQueue (h.engine.nickname h.state) [] h.session
  exact congrArg (fun asked => (h.engine, h.disk, asked)) hasked

theorem kept_stop (he : h.engine = MemoryEngine.engine now) : h.stop.2.kept = h.kept := by
  have hrequests := kept_performAll (h := h.mapSession fun _ => h.session.stop.2) he
  have hasked : h.session.stop.2.asked = h.session.asked := by
    by_cases hp : h.session.phase = .running
    · rw [Session.stop_eq hp]
      rfl
    · rw [Session.stop_of_ne hp]
  exact hrequests.trans (congrArg (fun asked => (h.engine, h.disk, asked)) hasked)

/-! ## What happens by itself -/

/-- Whether a request neither begins nor ends a session. -/
def IsMild : Request → Prop
  | .launch _ _ | .stopEngine => False
  | _ => True

/-- What a log stream and a delayed switch change: records are added to the queue, and the engine
serves as before. -/
structure Drifts (h h' : Host MemoryEngine) : Prop where
  engine : h'.engine = h.engine
  disk : h'.disk = h.disk
  running : h'.state.running = h.state.running
  ending : h'.state.ending = h.state.ending
  inFlight : h'.inFlight = h.inFlight
  session : ∃ records : List Message, (∀ m ∈ records, m.IsLog) ∧
    h'.session = { h.session with queue := h.session.queue ++ records }

namespace Drifts

/-- A change that adds no record. -/
theorem of_eq (engine : h'.engine = h.engine) (disk : h'.disk = h.disk)
    (running : h'.state.running = h.state.running) (ending : h'.state.ending = h.state.ending)
    (inFlight : h'.inFlight = h.inFlight) (session : h'.session = h.session) : h.Drifts h' :=
  ⟨engine, disk, running, ending, inFlight, [], nofun, by rw [session, List.append_nil]⟩

theorem refl (h : Host MemoryEngine) : h.Drifts h := .of_eq rfl rfl rfl rfl rfl rfl

theorem trans (hd : h.Drifts h') (hd' : h'.Drifts h'') : h.Drifts h'' := by
  obtain ⟨records, hlogs, hs⟩ := hd.session
  obtain ⟨more, hlogs', hs'⟩ := hd'.session
  refine ⟨hd'.engine.trans hd.engine, hd'.disk.trans hd.disk, hd'.running.trans hd.running,
    hd'.ending.trans hd.ending, hd'.inFlight.trans hd.inFlight, records ++ more, ?_, ?_⟩
  · intro m hm
    exact (List.mem_append.1 hm).elim (hlogs m) (hlogs' m)
  · rw [hs', hs, List.append_assoc]

theorem kept (hd : h.Drifts h') : h'.kept = h.kept := by
  obtain ⟨records, -, hs⟩ := hd.session
  rw [Host.kept, hd.engine, hd.disk, hs]
  rfl

/-- Where the log stream was put down is no concern of the session. -/
theorem withStream (hd : h.Drifts h') (stream : Option RunningStream) :
    h.Drifts { h' with stream := stream } :=
  ⟨hd.engine, hd.disk, hd.running, hd.ending, hd.inFlight, hd.session⟩

theorem perform (he : h.engine = MemoryEngine.engine now) {r : Request} (hr : IsMild r) :
    h.Drifts (h.perform r) := by
  cases r with
  | launch generation params => exact hr.elim
  | stopEngine => exact hr.elim
  | switchMode constant =>
    have hmode : (h.engine.switchMode constant h.state).2 = _ :=
      (by rw [he]; rfl : _ = (h.state.switchMode constant).2).trans
        (MemoryEngine.switchMode_eq constant h.state)
    refine .of_eq rfl rfl ?_ ?_ rfl rfl <;> dsimp only [Host.perform, mapEngine] <;> rw [hmode]
  | setMitm on =>
    have hset : h.engine.setMitm on h.state = _ :=
      (by rw [he]; rfl : _ = h.state.setMitm on).trans (MemoryEngine.setMitm_eq on h.state)
    refine .of_eq rfl rfl ?_ ?_ rfl rfl <;> dsimp only [Host.perform, mapEngine] <;> rw [hset]
  | _ => exact .of_eq rfl rfl rfl rfl rfl rfl

theorem foldl_perform (he : h.engine = MemoryEngine.engine now) {requests : List Request}
    (hr : ∀ r ∈ requests, IsMild r) : h.Drifts (requests.foldl Host.perform h) := by
  induction requests generalizing h with
  | nil => exact .refl h
  | cons r requests ih =>
    have hfirst := Drifts.perform he (hr r List.mem_cons_self)
    exact hfirst.trans (ih (hfirst.engine.trans he) fun q hq => hr q (List.mem_cons_of_mem r hq))

theorem step (he : h.engine = MemoryEngine.engine now) (slices : Nat) (point : StreamPoint) :
    h.Drifts (point.step streamHost slices h).2 := by
  have htrim (index : Nat) : h.Drifts (h.mapEngine (h.engine.logDeleteSince index)) := by
    refine .of_eq rfl rfl ?_ ?_ rfl rfl <;> rw [he] <;> rfl
  cases point with
  | asking seq =>
    simp only [StreamPoint.step, streamHost]
    rcases h.engine.logLength h.state with _ | _ | n <;> exact .refl h
  | offering seq index length entry =>
    exact ⟨rfl, rfl, rfl, rfl, rfl, [_], by simp [Message.IsLog], rfl⟩
  | trimming seq index => exact htrim index
  | leaving seq index => exact htrim index
  | pausing seq left => cases left <;> exact .refl h
  | _ => exact .refl h

theorem runWhile (he : h.engine = MemoryEngine.engine now) (slices : Nat)
    (p : StreamPoint → Bool) (n : Nat) (point : StreamPoint) :
    h.Drifts (StreamPoint.runWhile streamHost slices p n point h).2 := by
  induction n generalizing point h with
  | zero => exact .refl h
  | succ n ih =>
    rw [StreamPoint.runWhile]
    split
    · have hstep := Drifts.step he slices point
      exact hstep.trans (ih (hstep.engine.trans he) _)
    · exact .refl h

theorem flow (he : h.engine = MemoryEngine.engine now) : h.Drifts h.flow := by
  unfold Host.flow
  split
  · exact .refl h
  · next stream _ =>
    have hrun := Drifts.runWhile he pauseSlices (fun p => !p.isResting && !p.isEnded)
      (3 * (h.engine.logLength h.state).getD 0 + 10) stream.point
    exact hrun.withStream _

theorem rest (he : h.engine = MemoryEngine.engine now) : h.Drifts h.rest := by
  unfold Host.rest
  split
  · exact .refl h
  · exact (Drifts.step he _ _).withStream _

theorem endDelay (he : h.engine = MemoryEngine.engine now) (time : Nat) :
    h.Drifts (h.endDelay time) := by
  let left : Host MemoryEngine :=
    { h with delayed := (h.delayed.partition fun d => decide (d.2 ≤ time)).2 }
  have hleft : h.Drifts left := .of_eq rfl rfl rfl rfl rfl rfl
  unfold Host.endDelay
  dsimp only
  split
  · exact hleft.trans (Drifts.perform (h := left) (r := .setMitm true) he trivial)
  · exact hleft

end Drifts

/-- In a slice of time the log stream and the delayed switch go on, and then a start call may
return. -/
theorem exists_drifts_tick (he : h.engine = MemoryEngine.engine now) :
    ∃ h', h.Drifts h' ∧ h.tick = h'.collect := by
  let begun : Host MemoryEngine := { h with now := h.now + slice }
  have hpass : h.Drifts (begun.mapEngine (h.engine.pass begun.now)) := by
    refine .of_eq rfl rfl ?_ ?_ rfl rfl <;> rw [he] <;> rfl
  have hrest := hpass.trans (.rest (hpass.engine.trans he))
  have hflow := hrest.trans (.flow (hrest.engine.trans he))
  exact ⟨_, hflow.trans (.endDelay (hflow.engine.trans he) begun.now), rfl⟩

/-- A start call that has returned, or whose session was not asked to end, does not return. -/
theorem collect_eq_self (he : h.engine = MemoryEngine.engine now)
    (hq : h.inFlight = none ∨ h.state.ending = none) : h.collect = h := by
  unfold collect
  split
  · next generation status state hf hfinish =>
    rcases hq with hn | hn
    · cases hf.symm.trans hn
    · rw [he] at hfinish
      have hnone : h.state.finish? = none := by
        unfold MemoryEngine.finish?
        rw [hn]
        split <;> rfl
      cases hfinish.symm.trans hnone
  · rfl

theorem collect_eq {generation : Nat} {status : Status} {state : MemoryEngine}
    (hf : h.inFlight = some generation) (hs : h.engine.finish? h.state = some (status, state)) :
    h.collect = { h with state := state, inFlight := none }.mapSession
      fun s => s.enqueue (.exited generation status) := by
  unfold collect
  rw [hf, hs]

theorem kept_tick (he : h.engine = MemoryEngine.engine now) : h.tick.kept = h.kept := by
  obtain ⟨h', hd, ht⟩ := exists_drifts_tick he
  rw [ht, kept_collect, hd.kept]

theorem requests_tick (he : h.engine = MemoryEngine.engine now) :
    h.tick.session.requests = h.session.requests := by
  obtain ⟨h', hd, ht⟩ := exists_drifts_tick he
  obtain ⟨records, -, hs⟩ := hd.session
  obtain ⟨messages, hm⟩ := exists_session_collect h'
  rw [ht, hm, hs]

theorem drifts_tick (he : h.engine = MemoryEngine.engine now)
    (hq : h.inFlight = none ∨ h.state.ending = none) : h.Drifts h.tick := by
  obtain ⟨h', hd, ht⟩ := exists_drifts_tick he
  rw [ht, collect_eq_self (hd.engine.trans he)]
  · exact hd
  · rwa [hd.inFlight, hd.ending]

/-! ## How far a session is -/

/-- Whether a start call is served, which has not been asked to end. -/
structure IsServing (h : Host MemoryEngine) : Prop where
  running : h.state.running = true
  ending : h.state.ending = none
  inFlight : h.inFlight = some h.session.generation

theorem IsServing.drift (hv : h.IsServing) (hd : h.Drifts h') : h'.IsServing := by
  obtain ⟨records, -, hs⟩ := hd.session
  refine ⟨hd.running.trans hv.running, hd.ending.trans hv.ending, ?_⟩
  rw [hd.inFlight, hv.inFlight, hs]

/-- How far a session is, and what it is told next: it is starting and is told that it is ready, it
is running and is told of records, or it was asked to stop and is told that its start call has
returned. -/
inductive Stage (h : Host MemoryEngine) : Bool → Prop
  | starting {records : List Message} (phase : h.session.phase = .starting)
    (queue : h.session.queue = .ready h.session.generation :: records)
    (logs : ∀ m ∈ records, m.IsLog) (serving : h.IsServing) : Stage h false
  | running (phase : h.session.phase = .running) (logs : ∀ m ∈ h.session.queue, m.IsLog)
    (serving : h.IsServing) : Stage h false
  | stopping {status : Status} (phase : h.session.phase = .stopping)
    (queue : .exited h.session.generation status ∈ h.session.queue)
    (returned : h.inFlight = none) : Stage h true
  | stopped (phase : h.session.phase = .stopped) : Stage h true

namespace Stage

theorem drift (hs : h.Stage stopSent) (hd : h.Drifts h') : h'.Stage stopSent := by
  obtain ⟨records, hlogs, hsession⟩ := hd.session
  cases hs with
  | @starting earlier phase queue logs serving =>
    have hqueue : h'.session.queue =
        .ready h'.session.generation :: (earlier ++ records) := by
      rw [hsession, queue]
      rfl
    refine .starting ?_ hqueue ?_ (serving.drift hd)
    · rw [hsession]
      exact phase
    · exact fun m hm => (List.mem_append.1 hm).elim (logs m) (hlogs m)
  | running phase logs serving =>
    refine .running ?_ ?_ (serving.drift hd)
    · rw [hsession]
      exact phase
    · rw [hsession]
      exact fun m hm => (List.mem_append.1 hm).elim (logs m) (hlogs m)
  | @stopping status phase queue returned =>
    have hqueue : .exited h'.session.generation status ∈ h'.session.queue := by
      rw [hsession]
      exact List.mem_append_left _ queue
    refine .stopping ?_ hqueue (hd.inFlight.trans returned)
    rw [hsession]
    exact phase
  | stopped phase =>
    refine .stopped ?_
    rw [hsession]
    exact phase

/-- How far a session is does not depend on what it shows. -/
theorem congr (hs : h.Stage stopSent) (state : h'.state = h.state)
    (inFlight : h'.inFlight = h.inFlight) (phase : h'.session.phase = h.session.phase)
    (queue : h'.session.queue = h.session.queue)
    (generation : h'.session.generation = h.session.generation) : h'.Stage stopSent := by
  have hserving (serving : h.IsServing) : h'.IsServing := by
    refine ⟨?_, ?_, ?_⟩
    · rw [state]
      exact serving.running
    · rw [state]
      exact serving.ending
    · rw [inFlight, generation]
      exact serving.inFlight
  cases hs with
  | starting hp hq logs serving =>
    exact .starting (phase.trans hp) (by rw [queue, generation, hq]) logs (hserving serving)
  | running hp logs serving => exact .running (phase.trans hp) (queue ▸ logs) (hserving serving)
  | stopping hp hq returned =>
    exact .stopping (phase.trans hp) (by rw [queue, generation]; exact hq)
      (inFlight.trans returned)
  | stopped hp => exact .stopped (phase.trans hp)

/-- A session that is running is served. -/
theorem isServing (hs : h.Stage stopSent) (hp : h.session.phase = .running) : h.IsServing := by
  cases hs with
  | running phase logs serving => exact serving
  | starting phase => cases hp.symm.trans phase
  | stopping phase => cases hp.symm.trans phase
  | stopped phase => cases hp.symm.trans phase

/-- A slice of time takes a session nowhere. -/
theorem tick (he : h.engine = MemoryEngine.engine now) (hs : h.Stage stopSent) :
    h.tick.Stage stopSent := by
  cases hs with
  | starting phase queue logs serving =>
    exact (Stage.starting phase queue logs serving).drift (drifts_tick he (.inr serving.ending))
  | running phase logs serving =>
    exact (Stage.running phase logs serving).drift (drifts_tick he (.inr serving.ending))
  | stopping phase queue returned =>
    exact (Stage.stopping phase queue returned).drift (drifts_tick he (.inl returned))
  | stopped phase => exact .stopped ((congrArg Prod.fst (told_tick h)).trans phase)

/-- A session that is running goes on. -/
theorem handle_of_running (hr : h.session.requests = [])
    (phase : h.session.phase = .running) (logs : ∀ m ∈ h.session.queue, m.IsLog)
    (serving : h.IsServing) : h.handle.session.phase = .running ∧ h.handle.Stage false := by
  let name := h.engine.nickname h.state
  obtain ⟨lines, events, hhandled⟩ :=
    Session.exists_handleAll_eq name [] logs { h.session with queue := [] }
  have hh : h.handle = h.mapSession fun s => { s with
      queue := [], logs := lines, events := events } := by
    have hs : (h.mapSession fun s => s.handleQueue name []).session = { h.session with
        queue := [], logs := lines, events := events } := hhandled
    have hmap : (h.mapSession fun s => s.handleQueue name []) = h.mapSession fun s => { s with
        queue := [], logs := lines, events := events } :=
      congrArg (fun s => h.mapSession fun _ => s) hs
    rw [handle, hmap]
    exact performAll_eq_self hr
  rw [hh]
  exact ⟨phase, .running phase (fun m hm => nomatch hm)
    ⟨serving.running, serving.ending, serving.inFlight⟩⟩

/-- A session that is told that it is ready is running. -/
theorem handle_of_starting (he : h.engine = MemoryEngine.engine now)
    (hr : h.session.requests = []) {records : List Message}
    (phase : h.session.phase = .starting)
    (queue : h.session.queue = .ready h.session.generation :: records)
    (logs : ∀ m ∈ records, m.IsLog) (serving : h.IsServing) :
    h.handle.session.phase = .running ∧ h.handle.Stage false := by
  obtain ⟨hphase, hqueue, hgeneration, hrequests⟩ :=
    Session.handleQueue_of_ready (h.engine.nickname h.state) phase queue logs
  let told : Host MemoryEngine :=
    h.mapSession fun s => { s.handleQueue (h.engine.nickname h.state) [] with requests := [] }
  have hmild : ∀ r ∈ (h.session.handleQueue (h.engine.nickname h.state) []).requests,
      IsMild r := by
    rw [hrequests, hr]
    cases h.session.pendingMitm <;> simp [IsMild]
  have hdrift : told.Drifts h.handle := Drifts.foldl_perform (h := told) he hmild
  have hstage : told.Stage false := by
    refine .running hphase ?_ ⟨serving.running, serving.ending, ?_⟩
    · rw [show told.session.queue = [] from hqueue]
      exact fun m hm => nomatch hm
    · rw [show told.session.generation = h.session.generation from hgeneration]
      exact serving.inFlight
  obtain ⟨more, -, hsession⟩ := hdrift.session
  refine ⟨?_, hstage.drift hdrift⟩
  rw [hsession]
  exact hphase

/-- **A session that was asked to stop has stopped when its messages are handled.** -/
theorem phase_handle (hs : h.Stage true) : h.handle.session.phase = .stopped := by
  have hqueue : h.session.phase = .stopped ∨
      ∃ status, .exited h.session.generation status ∈ h.session.queue := by
    cases hs with
    | stopping phase queue returned => exact .inr ⟨_, queue⟩
    | stopped phase => exact .inl phase
  have htold := told_performAll
    (h.mapSession fun s => s.handleQueue (h.engine.nickname h.state) [])
  exact (congrArg Prod.fst htold).trans (Session.phase_handleQueue _ [] hqueue)

/-- What the caller asks for takes a session nowhere. -/
theorem ask (he : h.engine = MemoryEngine.engine now) (hs : h.Stage stopSent) {s : Session}
    (hp : s.phase = h.session.phase) (hq : s.queue = h.session.queue)
    (hg : s.generation = h.session.generation) (hr : ∀ r ∈ s.requests, IsMild r) :
    ((h.mapSession fun _ => s).performAll).Stage stopSent := by
  let asked : Host MemoryEngine := h.mapSession fun _ => { s with requests := [] }
  have hasked : asked.Stage stopSent := hs.congr rfl rfl hp hq hg
  exact hasked.drift (Drifts.foldl_perform (h := asked) he hr)

theorem handle (he : h.engine = MemoryEngine.engine now) (hr : h.session.requests = [])
    (hs : h.Stage stopSent) : h.handle.Stage stopSent := by
  cases hs with
  | starting phase queue logs serving =>
    exact (handle_of_starting he hr phase queue logs serving).2
  | running phase logs serving => exact (handle_of_running hr phase logs serving).2
  | stopping phase queue returned =>
    exact .stopped (phase_handle (.stopping phase queue returned))
  | stopped phase => exact .stopped (phase_handle (.stopped phase))

/-- A start call that is served returns when the engine is asked to stop. -/
theorem exists_perform_stopEngine (he : h.engine = MemoryEngine.engine now)
    (serving : h.IsServing) :
    ∃ status, (h.perform .stopEngine).inFlight = none ∧ (h.perform .stopEngine).session =
      h.session.enqueue (.exited h.session.generation status) := by
  have hended : h.engine.stop h.state = { h.state with ending := some .stopped } := by
    rw [he]
    change h.state.requestEnd .stopped = _
    rw [MemoryEngine.requestEnd, if_pos (by rw [serving.running, serving.ending]; rfl)]
  have hfinish : h.engine.finish? (h.engine.stop h.state) = some (Ending.stopped.status,
      { h.state with running := false, ending := none, mode := none, logs := [] }) := by
    rw [hended, he]
    change MemoryEngine.finish? _ = _
    rw [MemoryEngine.finish?, if_pos serving.running]
    rfl
  have hcollect : h.perform .stopEngine = _ :=
    collect_eq (h := h.mapEngine h.engine.stop) serving.inFlight hfinish
  refine ⟨Ending.stopped.status, ?_⟩
  rw [hcollect]
  exact ⟨rfl, rfl⟩

/-- A session that is running stops when it is asked to. -/
theorem stop (he : h.engine = MemoryEngine.engine now) (hr : h.session.requests = [])
    (phase : h.session.phase = .running) (serving : h.IsServing) :
    h.stop.1 = .ok () ∧ h.stop.2.Stage true := by
  have hok : h.session.stop.1 = .ok () := by
    rw [Session.stop, if_neg (not_not.2 phase)]
  refine ⟨hok, ?_⟩
  have hs : h.session.stop.2 = _ := Session.stop_eq phase
  let told : Host MemoryEngine := h.mapSession fun s => { s.stop.2 with requests := [] }
  have hgeneration : told.session.generation = h.session.generation := by
    change h.session.stop.2.generation = _
    rw [hs]
  have hphase : told.session.phase = .stopping := by
    change h.session.stop.2.phase = _
    rw [hs]
  obtain ⟨status, hreturned, hsession⟩ := exists_perform_stopEngine (h := told) he
    ⟨serving.running, serving.ending, serving.inFlight.trans (congrArg some hgeneration.symm)⟩
  have hstage : (told.perform .stopEngine).Stage true := by
    have hqueue : .exited (told.perform .stopEngine).session.generation status ∈
        (told.perform .stopEngine).session.queue := by
      rw [hsession]
      exact List.mem_append_right _ List.mem_cons_self
    refine .stopping ?_ hqueue hreturned
    rw [hsession]
    exact hphase
  have hengine : (told.perform .stopEngine).engine = MemoryEngine.engine now :=
    (congrArg Prod.fst (kept_perform (h := told) he .stopEngine)).trans he
  have hrest : h.stop.2 = (if h.session.holdsStream then [Request.stopStream] else []).foldl
      perform (told.perform .stopEngine) := by
    change h.session.stop.2.requests.foldl perform told = _
    rw [hs, hr]
    rfl
  rw [hrest]
  refine hstage.drift (Drifts.foldl_perform hengine ?_)
  cases h.session.holdsStream <;> simp [IsMild]

end Stage

/-- A start call of an engine that serves nobody is served, and its session is ready. -/
theorem perform_launch (he : h.engine = MemoryEngine.engine now) (hi : h.state = .idle)
    (generation : Nat) (params : StartParams) :
    (h.perform (.launch generation params)).session = h.session.enqueue (.ready generation) ∧
      (h.perform (.launch generation params)).state.running = true ∧
      (h.perform (.launch generation params)).state.ending = none ∧
      (h.perform (.launch generation params)).inFlight = some generation := by
  obtain ⟨engine, state, controller, disk, stream, inFlight, delayed, time, launches⟩ := h
  obtain rfl : engine = MemoryEngine.engine now := he
  obtain rfl : state = .idle := hi
  exact ⟨rfl, rfl, rfl, rfl⟩

/-- **A start on an engine that serves nobody.** The session is starting, in the mode that was asked
for, whatever became of the profile that was saved. -/
theorem start_idle (he : h.engine = MemoryEngine.engine now) (hi : h.state = .idle)
    (hr : h.session.requests = []) (hp : h.session.phase = .stopped) (hq : h.session.queue = [])
    {p : Profile} (hv : p.validate = .ok ()) (mode : Mode) :
    (h.start p (some mode)).1 = .ok .launched ∧ (h.start p (some mode)).2.Stage false ∧
      (h.start p (some mode)).2.session.requests = [] ∧
      (h.start p (some mode)).2.kept = (h.engine, (h.controller.store.save p h.disk).2.2,
        h.session.generation + 1, mode, h.session.pendingMitm) := by
  let begun : Session := { h.session with pendingMode := mode }
  have hcontroller : h.controller.start p (some mode) none h.disk = (.ok .launched,
      ⟨(begun.launch p none).2, (h.controller.store.save p h.disk).2.1⟩,
      (h.controller.store.save p h.disk).2.2) := by
    unfold Controller.start
    rw [hv]
    exact if_neg (not_not.2 hp)
  have hlaunched : (begun.launch p none).2 = _ := Session.launch_none_eq p begun
  let saved : Host MemoryEngine := { h with
    controller := ⟨(begun.launch p none).2, (h.controller.store.save p h.disk).2.1⟩
    disk := (h.controller.store.save p h.disk).2.2 }
  have hstart : h.start p (some mode) = (.ok .launched, saved.performAll) := by
    unfold start
    rw [hcontroller]
  let told : Host MemoryEngine := saved.mapSession fun s => { s with requests := [] }
  let launched : Host MemoryEngine :=
    told.perform (.launch (h.session.generation + 1) (begun.startParams p))
  have hperform : saved.performAll = launched := by
    have hrequests : saved.session.requests =
        [.launch (h.session.generation + 1) (begun.startParams p)] := by
      change (begun.launch p none).2.requests = _
      rw [hlaunched, show begun.requests = [] from hr]
      rfl
    change saved.session.requests.foldl perform told = _
    rw [hrequests]
    rfl
  obtain ⟨hsession, hrunning, hending, hflight⟩ :=
    perform_launch (h := told) he hi (h.session.generation + 1) (begun.startParams p)
  have hgeneration : launched.session.generation = h.session.generation + 1 := by
    rw [hsession]
    exact congrArg Session.generation hlaunched
  have hqueue : launched.session.queue = [.ready launched.session.generation] := by
    rw [hgeneration, hsession]
    change (begun.launch p none).2.queue ++ _ = _
    rw [hlaunched, show begun.queue = [] from hq]
    rfl
  have hphase : launched.session.phase = .starting := by
    rw [hsession]
    exact congrArg Session.phase hlaunched
  have hkept : saved.performAll.kept = saved.kept := kept_performAll he
  rw [hstart]
  refine ⟨rfl, ?_, requests_performAll saved, hkept.trans ?_⟩
  · dsimp only
    rw [hperform]
    exact .starting hphase hqueue nofun
      ⟨hrunning, hending, hflight.trans (congrArg some hgeneration.symm)⟩
  · have hasked : saved.session.asked = (h.session.generation + 1, mode, h.session.pendingMitm) :=
      congrArg Session.asked hlaunched
    rw [kept, hasked]

end Host

end ProxyControl
