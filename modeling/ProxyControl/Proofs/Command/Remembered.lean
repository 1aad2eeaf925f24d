import ProxyControl.Command.Rehearsal
import ProxyControl.Proofs.Command.Rehearsed
import ProxyControl.Proofs.Store.InStep
import ProxyControl.Proofs.Store.SavedSettings
import ProxyControl.Proofs.Text.Words

/-!
# What a rehearsed session leaves

A session on the engine in memory saves its profile when it begins, and the mode and the inspection
that were asked for last when it is over. Between the two it keeps the settings that it began with,
so what it saves are these with the two choices changed; and as each of the two saves writes its own
sections of the document, neither undoes the other.

## Main definitions

* `Attended.Move.control?`: the command that a move gives
* `Attended.lastMode?`, `Attended.lastMitm?`: what the commands of some moves ask for last
* `Attended.Remembers`: a session that is to leave a mode and inspection, or none

## Main results

* `Attended.Remembers.run`: what a session is to leave after any moves
* `Attended.remembered`: what a session leaves
-/

set_option autoImplicit false

namespace ProxyControl

open Document

/-! ## Commands -/

/-- A blank line is no command. -/
theorem Control.parse_of_isBlankText {line : String} (h : Text.isBlankText line = true) :
    Control.parse line = .error (Control.unknownMessage line) := by
  rw [parse, Text.words_of_isBlankText h]
  rfl

namespace Attended

/-- The command that a move gives, unless it is rejected. -/
def Move.control? : Move → Option Control
  | .obey line => (Control.parse line).toOption
  | .poll | .wait | .endInput => none

/-- The mode that a move asks for. -/
def Move.mode? (m : Move) : Option Mode :=
  match m.control? with
  | some (.mode mode) => some mode
  | _ => none

/-- Whether a move asks for inspection or against it. -/
def Move.mitm? (m : Move) : Option Bool :=
  match m.control? with
  | some (.mitm on) => some on
  | _ => none

/-- The mode that is asked for last. -/
def lastMode? (moves : List Move) : Option Mode := (moves.filterMap Move.mode?).getLast?

/-- The inspection that is asked for last. -/
def lastMitm? (moves : List Move) : Option Bool := (moves.filterMap Move.mitm?).getLast?

theorem getLast?_filterMap_cons {α : Type} (f : Move → Option α) (m : Move) (moves : List Move)
    (a : α) : (((m :: moves).filterMap f).getLast?).getD a =
      ((moves.filterMap f).getLast?).getD ((f m).getD a) := by
  cases hm : f m with
  | none => rw [List.filterMap_cons_none hm]; rfl
  | some b =>
    rw [List.filterMap_cons_some hm, List.getLast?_cons]
    cases (moves.filterMap f).getLast? <;> rfl

/-! ## Moves -/

variable {a b : Attended MemoryEngine} {now : Nat} {w : Workplace} {s : Settings} {d : Disk}
  {mode : Mode} {mitm : Bool}

/-- A session that is to leave a mode, and inspection or none, with the settings and the disk that
it began with. It was not given up. -/
structure Remembers (now : Nat) (w : Workplace) (s : Settings) (d : Disk) (mode : Mode)
    (mitm : Bool) (a : Attended MemoryEngine) : Prop where
  engine : a.host.engine = MemoryEngine.engine now
  disk : a.host.disk = d
  workplace : a.workplace = w
  settings : a.settings = s
  mode : a.session.pendingMode = mode
  mitm : a.session.pendingMitm = mitm
  idle : a.session.requests = []
  stage : a.host.Stage a.stopSent
  goesOn : a.isAbandoned = false

namespace Remembers

/-- What only the caller changes is as before, and so is all but the host. -/
theorem withHost (h : a.Remembers now w s d mode mitm) {host : Host MemoryEngine} {stopSent : Bool}
    (hk : host.kept = a.host.kept) (hr : host.session.requests = [])
    (hs : host.Stage stopSent) :
    Remembers now w s d mode mitm { a with host := host, stopSent := stopSent } := by
  simp only [Host.kept, Session.asked, Prod.mk.injEq] at hk
  obtain ⟨he, hd, -, hmode, hmitm⟩ := hk
  exact ⟨he.trans h.engine, hd.trans h.disk, h.workplace, h.settings, hmode.trans h.mode,
    hmitm.trans h.mitm, hr, hs, h.goesOn⟩

theorem say (h : a.Remembers now w s d mode mitm) (printed : Console) :
    (a.say printed).Remembers now w s d mode mitm :=
  ⟨h.engine, h.disk, h.workplace, h.settings, h.mode, h.mitm, h.idle, h.stage, h.goesOn⟩

theorem report (h : a.Remembers now w s d mode mitm) (e : SessionEvent) :
    (a.report e).Remembers now w s d mode mitm := by
  cases e with
  | line l => exact h.say _
  | ended status =>
    exact ⟨h.engine, h.disk, h.workplace, h.settings, h.mode, h.mitm, h.idle, h.stage, h.goesOn⟩
  | _ => exact h

theorem wait (h : a.Remembers now w s d mode mitm) : a.wait.Remembers now w s d mode mitm :=
  h.withHost (Host.kept_tick h.engine) ((Host.requests_tick h.engine).trans h.idle)
    (h.stage.tick h.engine)

theorem handle (h : a.Remembers now w s d mode mitm) :
    Remembers now w s d mode mitm { a with host := a.host.handle } :=
  h.withHost (Host.kept_handle h.engine) (Host.requests_performAll _)
    (h.stage.handle h.engine h.idle)

theorem drift (h : a.Remembers now w s d mode mitm) {host : Host MemoryEngine}
    (hd : a.host.Drifts host) : Remembers now w s d mode mitm { a with host := host } := by
  obtain ⟨records, -, hs⟩ := hd.session
  refine h.withHost hd.kept ?_ (h.stage.drift hd)
  rw [hs]
  exact h.idle

theorem poll (h : a.Remembers now w s d mode mitm) : a.poll.Remembers now w s d mode mitm := by
  have hflow := h.handle.drift (Host.Drifts.flow h.handle.engine)
  have hheard : Remembers now w s d mode mitm
      { a with host := a.host.handle.flow.mapSession fun s => { s with events := [] } } :=
    hflow.withHost rfl hflow.idle (hflow.stage.congr rfl rfl rfl rfl rfl)
  have hfold (events : List SessionEvent) {b : Attended MemoryEngine}
      (hb : b.Remembers now w s d mode mitm) :
      (events.foldl (fun a e => a.report e) b).Remembers now w s d mode mitm := by
    induction events generalizing b with
    | nil => exact hb
    | cons e events ih => exact ih (hb.report e)
  exact hfold _ hheard

theorem requestStop (h : a.Remembers now w s d mode mitm) :
    a.requestStop.Remembers now w s d mode mitm := by
  by_cases hp : a.session.phase = .running
  · obtain ⟨hok, hstage⟩ := Host.Stage.stop h.engine h.idle hp (h.stage.isServing hp)
    have hkept : a.host.stop.2.kept = a.host.kept := Host.kept_stop h.engine
    have hidle : a.host.stop.2.session.requests = [] := Host.requests_performAll _
    unfold Attended.requestStop
    rcases hs : a.host.stop with ⟨answer, host⟩
    rw [hs] at hok hstage hkept hidle
    obtain rfl : answer = .ok () := hok
    exact h.withHost hkept hidle hstage
  · unfold Attended.requestStop
    rw [Host.stop_eq_of_ne h.idle hp]
    exact h

theorem stopSent_requestStop (h : a.Remembers now w s d mode mitm)
    (hp : a.session.phase = .running) : a.requestStop.stopSent = true := by
  obtain ⟨hok, -⟩ := Host.Stage.stop h.engine h.idle hp (h.stage.isServing hp)
  unfold Attended.requestStop
  rcases hs : a.host.stop with ⟨answer, host⟩
  rw [hs] at hok
  obtain rfl : answer = .ok () := hok
  rfl

/-- When the operator's input has ended, a session that cannot be asked to stop yet is left alone,
and any other is waited for no longer than its messages take. -/
theorem exists_endInput_eq (h : a.Remembers now w s d mode mitm) :
    ∃ b, (if a.stopSent then a else a.requestStop) = b ∧ b.Remembers now w s d mode mitm ∧
      (b.stopSent = false ∧ a.endInput = b ∨ a.endInput = { b with host := b.host.handle } ∧
        b.host.handle.session.phase = .stopped) := by
  have hasked : (if a.stopSent then a else a.requestStop).Remembers now w s d mode mitm := by
    split
    · exact h
    · exact h.requestStop
  refine ⟨_, rfl, hasked, ?_⟩
  unfold Attended.endInput
  generalize (if a.stopSent then a else a.requestStop) = b at hasked ⊢
  by_cases hsent : b.stopSent = false
  · exact .inl ⟨hsent, if_pos hsent⟩
  · have hstage := hasked.stage
    rw [(Bool.not_eq_false _).mp hsent] at hstage
    have hstopped := hstage.phase_handle
    have hawaited : b.awaitStop stopSlices = { b with host := b.host.handle } := by
      rw [show stopSlices = 199 + 1 from rfl, Attended.awaitStop]
      exact if_pos hstopped
    refine .inr ⟨?_, hstopped⟩
    dsimp only
    rw [if_neg hsent, hawaited]
    exact if_pos hstopped

theorem endInput (h : a.Remembers now w s d mode mitm) :
    a.endInput.Remembers now w s d mode mitm := by
  obtain ⟨b, -, hb, ⟨-, heq⟩ | ⟨heq, -⟩⟩ := h.exists_endInput_eq
  · rw [heq]
    exact hb
  · rw [heq]
    exact hb.handle

/-- What is asked for is what the session is to leave. -/
theorem ask (h : a.Remembers now w s d mode mitm) (next : Session)
    (hp : next.phase = a.session.phase) (hq : next.queue = a.session.queue)
    (hg : next.generation = a.session.generation) (hr : ∀ r ∈ next.requests, Host.IsMild r) :
    Remembers now w s d next.pendingMode next.pendingMitm
      { a with host := (a.host.mapSession fun _ => next).performAll } := by
  have hkept := Host.kept_performAll (h := a.host.mapSession fun _ => next) h.engine
  simp only [Host.kept, Session.asked, Prod.mk.injEq] at hkept
  obtain ⟨he, hd, -, hmode, hmitm⟩ := hkept
  exact ⟨he.trans h.engine, hd.trans h.disk, h.workplace, h.settings, hmode, hmitm,
    Host.requests_performAll _, h.stage.ask h.engine hp hq hg hr, h.goesOn⟩

theorem switchMode (h : a.Remembers now w s d mode mitm) (m : Mode) :
    (a.perform (.mode m)).Remembers now w s d m mitm := by
  have hs := a.session.switchMode_eq m
  rw [h.idle, List.nil_append] at hs
  have hask := h.ask (a.session.switchMode m).2 (by rw [hs]) (by rw [hs]) (by rw [hs])
    (by rw [hs]; split <;> simp [Host.IsMild])
  have hmode : (a.session.switchMode m).2.pendingMode = m := by rw [hs]
  have hmitm : (a.session.switchMode m).2.pendingMitm = mitm := by rw [hs, ← h.mitm]
  rw [hmode, hmitm] at hask
  exact hask.say _

theorem setMitm (h : a.Remembers now w s d mode mitm) (on : Bool) :
    (a.perform (.mitm on)).Remembers now w s d mode on := by
  have hs := a.session.setMitm_eq on
  rw [h.idle, List.nil_append] at hs
  have hask := h.ask (a.session.setMitm on).2 (by rw [hs]) (by rw [hs]) (by rw [hs])
    (by rw [hs]; split <;> simp [Host.IsMild])
  have hmode : (a.session.setMitm on).2.pendingMode = mode := by rw [hs, ← h.mode]
  have hmitm : (a.session.setMitm on).2.pendingMitm = on := by rw [hs]
  rw [hmode, hmitm] at hask
  exact hask.say _

theorem obey (h : a.Remembers now w s d mode mitm) (line : String) :
    (a.obey line).Remembers now w s d ((Move.obey line).mode?.getD mode)
      ((Move.obey line).mitm?.getD mitm) := by
  unfold Attended.obey
  split
  · next hblank =>
    have hparse := Control.parse_of_isBlankText hblank
    simp only [Move.mode?, Move.mitm?, Move.control?, hparse]
    exact h
  · cases hc : Control.parse line with
    | error message =>
      simp only [Move.mode?, Move.mitm?, Move.control?, hc]
      exact h.say _
    | ok c =>
      simp only [Move.mode?, Move.mitm?, Move.control?, hc]
      cases c with
      | mode m => exact h.switchMode m
      | mitm on => exact h.setMitm on
      | status => exact h.say _
      | stop => exact h.requestStop

theorem make (h : a.Remembers now w s d mode mitm) (m : Move) :
    (a.make m).Remembers now w s d (m.mode?.getD mode) (m.mitm?.getD mitm) := by
  cases m with
  | poll => exact h.poll
  | obey line => exact h.obey line
  | wait => exact h.wait
  | endInput => exact h.endInput

/-- **What a session is to leave after any moves.** -/
theorem run (h : a.Remembers now w s d mode mitm) (moves : List Move) :
    (a.run moves).Remembers now w s d ((lastMode? moves).getD mode)
      ((lastMitm? moves).getD mitm) := by
  induction moves generalizing a mode mitm with
  | nil => exact h
  | cons m moves ih =>
    have hrest := ih (h.make m)
    rw [lastMode?, lastMitm?, getLast?_filterMap_cons, getLast?_filterMap_cons]
    exact hrest

end Remembers

/-! ## Sessions that are begun -/

theorem loadRouteList_ofTree (path : FilePath) (tree : FileTree) :
    (loadRouteList path (.ofTree tree)).2 = .ofTree tree := by
  have hread : Disk.read path (.ofTree tree) = (tree.read? path, .ofTree tree) := rfl
  unfold loadRouteList
  rw [hread]
  cases tree.read? path <;> rfl

/-- A session that can begin is to leave the mode and the inspection that it begins with. -/
theorem exists_begin_eq (now : Nat) (clock : Option Timestamp → String) {tree : FileTree}
    {t : Table} {arguments : RunArguments} (ht : (w.storeFile.read (.ofTree tree)).1 = .ok t)
    (hv : (arguments.profile (findProfile? (ProfileStore.workingSet (profilesOfDocument t))
      arguments.server)).validate = .ok ()) :
    ∃ a, begin (MemoryEngine.engine now) .idle clock arguments w (.ofTree tree) = .ok a ∧
      a.Remembers now w (loadSettings w.storeFile (.ofTree tree)).1.1
        ((⟨w.backend, ProfileStore.workingSet (profilesOfDocument t)⟩ : ProfileStore Disk).save
          (arguments.profile (findProfile? (ProfileStore.workingSet (profilesOfDocument t))
            arguments.server)) (.ofTree tree)).2.2
        (arguments.mode.getD (loadSettings w.storeFile (.ofTree tree)).1.1.mode)
        (arguments.mitm || (loadSettings w.storeFile (.ofTree tree)).1.1.mitm) := by
  obtain ⟨hdisk, -⟩ := loadSettings_ofTree ht
  have hopen := Workplace.openOn_ofTree ht
  unfold begin
  rcases hload : loadSettings w.storeFile (.ofTree tree) with ⟨⟨settings, warnings⟩, d⟩
  rw [hload] at hdisk
  obtain rfl : d = .ofTree tree := hdisk
  have hroute : (w.routeList settings (.ofTree tree)).2 = .ofTree tree :=
    loadRouteList_ofTree _ _
  rcases hr : w.routeList settings (.ofTree tree) with ⟨routeList, d⟩
  rw [hr] at hroute
  obtain rfl : d = .ofTree tree := hroute
  let store : ProfileStore Disk :=
    ⟨w.backend, ProfileStore.workingSet (profilesOfDocument t)⟩
  let idle : Host MemoryEngine := .idle (MemoryEngine.engine now) .idle
    (.idle store (optionsOf arguments settings routeList)) (.ofTree tree)
  let asked : Host MemoryEngine := (idle.setMitm (arguments.mitm || settings.mitm)).2
  obtain ⟨hok, hstage, hidle, hkept⟩ := Host.start_idle (h := asked) rfl rfl rfl rfl rfl hv
    (arguments.mode.getD settings.mode)
  simp only [Host.kept, Session.asked, Prod.mk.injEq] at hkept
  obtain ⟨he, hd, -, hmode, hmitm⟩ := hkept
  rcases hs : asked.start (arguments.profile (store.get? arguments.server))
    (some (arguments.mode.getD settings.mode)) with ⟨answer, host⟩
  have hs' : asked.start (arguments.profile (findProfile? (ProfileStore.workingSet
    (profilesOfDocument t)) arguments.server)) (some (arguments.mode.getD settings.mode)) = _ := hs
  rw [hs'] at hok hstage hidle he hd hmode hmitm
  obtain rfl : answer = .ok .launched := hok
  refine ⟨⟨host, w, settings, clock, false, false, false, .warnings warnings⟩, ?_,
    ⟨he, hd, rfl, rfl, hmode, hmitm, hidle, hstage, rfl⟩⟩
  simp only [hopen, hr]
  rw [hs]

/-! ## Sessions that are over -/

namespace Remembers

theorem host_foldl_report (events : List SessionEvent) (a : Attended MemoryEngine) :
    (events.foldl (fun a e => a.report e) a).host = a.host ∧
      (events.foldl (fun a e => a.report e) a).stopSent = a.stopSent := by
  induction events generalizing a with
  | nil => exact ⟨rfl, rfl⟩
  | cons e events ih =>
    obtain ⟨hhost, hsent⟩ := ih (a.report e)
    rw [List.foldl_cons, hhost, hsent]
    cases e <;> exact ⟨rfl, rfl⟩

/-- A session whose messages were handled is running, unless it was asked to stop. -/
theorem phase_poll (h : a.Remembers now w s d mode mitm) :
    a.poll.stopSent = true ∨ a.poll.session.phase = .running := by
  obtain ⟨hhost, hsent⟩ := host_foldl_report a.host.handle.flow.session.events
    { a with host := a.host.handle.flow.mapSession fun s => { s with events := [] } }
  have hrunning : a.host.handle.session.phase = .running → a.poll.session.phase = .running := by
    intro hp
    obtain ⟨records, -, hflow⟩ := (Host.Drifts.flow h.handle.engine).session
    have hphase : a.poll.session.phase = a.host.handle.flow.session.phase :=
      congrArg (·.session.phase) hhost
    rw [hphase, hflow]
    exact hp
  have hstage := h.stage
  cases hstop : a.stopSent with
  | true => exact .inl (hsent.trans hstop)
  | false =>
    rw [hstop] at hstage
    cases hstage with
    | starting phase queue logs serving =>
      exact .inr (hrunning
        (Host.Stage.handle_of_starting h.engine h.idle phase queue logs serving).1)
    | running phase logs serving =>
      exact .inr (hrunning (Host.Stage.handle_of_running h.idle phase logs serving).1)

/-- A session that is running, or was asked to stop, has stopped when the operator's input has
ended. -/
theorem phase_endInput (h : a.Remembers now w s d mode mitm)
    (hs : a.stopSent = true ∨ a.session.phase = .running) :
    a.endInput.session.phase = .stopped := by
  obtain ⟨b, hb, -, ⟨hsent, -⟩ | ⟨heq, hstopped⟩⟩ := h.exists_endInput_eq
  · have hasked : (if a.stopSent then a else a.requestStop).stopSent = true := by
      split
      · assumption
      · next hne => exact h.stopSent_requestStop (hs.resolve_left hne)
    cases hsent.symm.trans (hb ▸ hasked)
  · rw [heq]
    exact hstopped

/-- The mode and the inspection that a session is to leave are those of the settings then, and the
profiles are as before. -/
theorem finish {tree : FileTree} {u : Table}
    (h : a.Remembers now w s (.ofTree tree) mode mitm) (hs : s.IsSettled)
    (hl : (loadSettings w.storeFile (.ofTree tree)).1.1 = s)
    (hu : (w.storeFile.read (.ofTree tree)).1 = .ok u) (hw : tree.Replaceable w.storeFile.path)
    (hf : w.storeFile.format.ReadsBack (putSettings u { s with mode := mode, mitm := mitm })) :
    ∃ tree' u', a.finish.2 = .ofTree tree' ∧ (w.storeFile.read (.ofTree tree')).1 = .ok u' ∧
      profilesOfDocument u' = profilesOfDocument u ∧
      (loadSettings w.storeFile (.ofTree tree')).1.1 = { s with mode := mode, mitm := mitm } := by
  have hfinish : a.finish.2 = if s.mode = mode ∧ s.mitm = mitm then .ofTree tree
      else (saveSettings w.storeFile { s with mode := mode, mitm := mitm } (.ofTree tree)).2 := by
    rw [Attended.finish, h.goesOn]
    simp only [h.settings, h.workplace, h.disk, h.mode, h.mitm]
    rfl
  rw [hfinish]
  split
  · next hsame =>
    obtain ⟨rfl, rfl⟩ := hsame
    exact ⟨tree, u, rfl, hu, rfl, hl⟩
  · have hchosen := hs.withChoice mode mitm
    obtain ⟨tree', hsave, hread⟩ := saveSettings_ofTree hchosen.check_eq_ok hu hw hf
    refine ⟨tree', _, by rw [hsave], hread, profilesOfDocument_putSettings u _, ?_⟩
    rw [loadSettings_putSettings hchosen.check_eq_ok hread, hchosen.tidied_eq_self]

end Remembers

/-- **What a rehearsed session leaves.** A session whose profile can be used and saved begins, is
never given up, and is over once its messages were handled and the operator's input has ended.
Whatever happened, the settings are then those from before with the mode and the inspection that
were asked for last, be it by a command that was not rejected, by the arguments or by the settings
themselves; and a store that is opened anew has the profiles from before and that of the session. -/
theorem remembered (now : Nat) (clock : Option Timestamp → String) (arguments : RunArguments)
    {tree : FileTree} {t : Table} {saved : List Profile} {settings : Settings} {p : Profile}
    (ht : (w.storeFile.read (.ofTree tree)).1 = .ok t)
    (ho : (ProfileStore.openOn w.backend (.ofTree tree)).1 = .ok ⟨w.backend, saved⟩)
    (hl : (loadSettings w.storeFile (.ofTree tree)).1.1 = settings)
    (hp : arguments.profile (findProfile? saved arguments.server) = p)
    (hv : p.validate = .ok ())
    (hroom : findProfile? saved p.serverAddr = none → saved.length < maxProfiles)
    (hw : tree.Replaceable w.storeFile.path)
    (hf : w.storeFile.format.ReadsBack (putProfiles t (upsert p saved)))
    (hf' : ∀ mode mitm, w.storeFile.format.ReadsBack
      (putSettings (putProfiles t (upsert p saved))
        { settings with mode := mode, mitm := mitm })) :
    ∃ a, begin (MemoryEngine.engine now) .idle clock arguments w (.ofTree tree) = .ok a ∧
      ∀ moves, (a.run moves).isAbandoned = false ∧
        (a.run (moves ++ [.poll, .endInput])).isOver = true ∧
        ∃ tree', (a.run moves).finish.2 = .ofTree tree' ∧
          (loadSettings w.storeFile (.ofTree tree')).1.1 = { settings with
            mode := (lastMode? moves).getD (arguments.mode.getD settings.mode)
            mitm := (lastMitm? moves).getD (arguments.mitm || settings.mitm) } ∧
          w.Reopens tree' (upsert p saved) := by
  have hopen := Workplace.openOn_ofTree ht
  obtain rfl : ProfileStore.workingSet (profilesOfDocument t) = saved := by
    have hstore := (congrArg Prod.fst hopen).symm.trans ho
    exact congrArg ProfileStore.profiles (Except.ok.inj hstore)
  subst hl hp
  let store : ProfileStore Disk := ⟨w.backend, ProfileStore.workingSet (profilesOfDocument t)⟩
  obtain ⟨saved, hsave, hread, hsaved⟩ :=
    ProfileStore.save_ofTree (s := store) rfl ht hroom hw hf
  obtain ⟨a, hbegin, ha⟩ := exists_begin_eq now clock ht hv
  rw [show (store.save _ _).2.2 = .ofTree saved from congrArg (·.2.2) hsave] at ha
  -- the profile was put into its own section, so the settings are read as before
  have hload := loadSettings_congr ht hread (value?_putProfiles t _ (by decide))
  refine ⟨a, hbegin, fun moves => ⟨(ha.run moves).goesOn, ?_, ?_⟩⟩
  · have hpolled := (ha.run moves).poll
    have hstopped := hpolled.phase_endInput (ha.run moves).phase_poll
    rw [run_append]
    exact Bool.or_eq_true_iff.2 (.inr (decide_eq_true hstopped))
  · obtain ⟨tree', u, hfinish, hu, hprofiles, hloaded⟩ := (ha.run moves).finish
      (isSettled_loadSettings _ _) (congrArg Prod.fst hload) hread hsaved (hf' _ _)
    refine ⟨tree', hfinish, hloaded, Workplace.reopens_of_read hu ?_⟩
    rw [hprofiles]
    have hset : IsWorkingSet (ProfileStore.workingSet (profilesOfDocument t)) :=
      isWorkingSet_workingSet fun p => serverAddr_ne_of_mem_profilesOfDocument
    exact perm_workingSet_putProfiles t (hset.upsert (Profile.serverAddr_ne_of_validate hv) hroom)

/-! A session for a server whose profile has no key yet, beside settings that differ from those of a
first run in the number of names that the resolver remembers. -/

def rehearsedTree : FileTree :=
  .directory [("c", .directory
    [("flightdeck.toml", .file "[default]\nDNSCache=9\n[\"server-h:1\"]\n".toUTF8)])]

def rehearsedPlace : Workplace := ⟨[], .inDir "c"⟩

def rehearsedDocument : Table :=
  [("default", .table [("DNSCache", .integer 9)]), ("server-h:1", .table [])]

def rehearsedArguments : RunArguments where
  server := "h:1"
  key := some "k"
  loc := none
  user := none
  password := none
  isPartial := none
  udpPort := none
  udpTcpFactor := none
  domain := none
  mode := none
  mitm := true
  logLevel := none
  program := none
  engineArgs := []

/-- A mode, a mode that is rejected and the inspection, between which the session begins to run. -/
def rehearsedMoves : List Move :=
  [.obey "mode none", .poll, .obey "mode x", .obey "mitm off", .poll, .endInput]

/-- What the session finds. -/
theorem openOn_rehearsedTree :
    (rehearsedPlace.storeFile.read (.ofTree rehearsedTree)).1 = .ok rehearsedDocument ∧
    (ProfileStore.openOn rehearsedPlace.backend (.ofTree rehearsedTree)).1 =
      .ok ⟨rehearsedPlace.backend, [Profile.new "h:1"]⟩ ∧
    (loadSettings rehearsedPlace.storeFile (.ofTree rehearsedTree)).1.1 =
      { Settings.initial with dnsCacheSize := 9 } ∧
    rehearsedTree.Replaceable rehearsedPlace.storeFile.path := by
  have hread : (rehearsedPlace.storeFile.read (.ofTree rehearsedTree)).1 = .ok rehearsedDocument :=
    eq_ok_of_toOption (by decide +kernel)
  refine ⟨hread, ?_, by decide +kernel, FileTree.Ready.replaceable ⟨?_, ?_, ?_⟩⟩
  · have hprofiles : ProfileStore.workingSet (profilesOfDocument rehearsedDocument) =
        [Profile.new "h:1"] := by decide +kernel
    rw [Workplace.openOn_ofTree hread, hprofiles]
  · decide +kernel
  · exact ⟨["c", "flightdeck.toml.tmp"], eq_ok_of_toOption (by decide +kernel)⟩
  · exact ⟨["c", "flightdeck.toml"], eq_ok_of_toOption (by decide +kernel)⟩

/-- What the session saves. -/
theorem upsert_rehearsedTree :
    (rehearsedArguments.profile (findProfile? [Profile.new "h:1"] "h:1")).validate = .ok () ∧
    upsert (rehearsedArguments.profile (findProfile? [Profile.new "h:1"] "h:1"))
      [Profile.new "h:1"] = [{ Profile.new "h:1" with key := "k" }] ∧
    rehearsedPlace.storeFile.format.ReadsBack
      (putProfiles rehearsedDocument [{ Profile.new "h:1" with key := "k" }]) ∧
    ∀ mode mitm, rehearsedPlace.storeFile.format.ReadsBack (putSettings
      (putProfiles rehearsedDocument [{ Profile.new "h:1" with key := "k" }])
        { Settings.initial with dnsCacheSize := 9, mode := mode, mitm := mitm }) := by
  refine ⟨by decide +kernel, by decide +kernel, ?_, fun mode mitm => ?_⟩
  · exact (Format.readsBack_pretty_iff _).2 (by decide +kernel)
  · refine (Format.readsBack_pretty_iff _).2 ?_
    cases mode <;> cases mitm <;> decide +kernel

/-- The session leaves no routing and no inspection, and the key. -/
theorem remembered_rehearsedTree :
    ∃ a, begin (MemoryEngine.engine 1) .idle Rehearsal.hiddenClock rehearsedArguments rehearsedPlace
        (.ofTree rehearsedTree) = .ok a ∧
      (a.run rehearsedMoves).isOver = true ∧
      ∃ tree', (a.run rehearsedMoves).finish.2 = .ofTree tree' ∧
        (loadSettings rehearsedPlace.storeFile (.ofTree tree')).1.1 =
          { Settings.initial with dnsCacheSize := 9, mode := .none } ∧
        rehearsedPlace.Reopens tree' [{ Profile.new "h:1" with key := "k" }] := by
  obtain ⟨hread, hopen, hload, hreplaceable⟩ := openOn_rehearsedTree
  obtain ⟨hvalid, hupserted, hback, hsettled⟩ := upsert_rehearsedTree
  have hroom : [Profile.new "h:1"].length < maxProfiles := by decide
  have hlast : lastMode? rehearsedMoves = some .none ∧ lastMitm? rehearsedMoves = some false := by
    decide +kernel
  obtain ⟨a, hbegin, hrun⟩ := remembered 1 Rehearsal.hiddenClock rehearsedArguments
    hread hopen hload rfl hvalid (fun _ => hroom) hreplaceable
    (hupserted.symm ▸ hback) (fun mode mitm => hupserted.symm ▸ hsettled mode mitm)
  obtain ⟨-, -, tree', hfinish, hsettings, hreopens⟩ := hrun rehearsedMoves
  refine ⟨a, hbegin, ?_, tree', hfinish, ?_, hupserted ▸ hreopens⟩
  · exact (hrun (rehearsedMoves.take 4)).2.1
  · rw [hsettings, hlast.1, hlast.2]
    rfl

end Attended

end ProxyControl
