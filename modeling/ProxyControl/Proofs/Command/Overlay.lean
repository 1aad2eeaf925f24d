import ProxyControl.Command.Settings
import ProxyControl.Proofs.Store.SavedSettings

/-!
# Settings changed by a command

A change gives values for some of the settings. It is laid over the settings that the program would
use, so a bad value in the file was replaced before the change is checked, and only values that the
change gives can fail the check. A change that fails it, and a change to a file that cannot be read,
leave the disk as it was. Any other change is saved, and what is loaded from then on are the settings
from before with the given values in their places.

## Main definitions

* `SettingsChange.IsAcceptable`: a change whose values can be used
* `SettingsChange.overlay`: settings with the values of a change in the places of theirs

## Main results

* `SettingsChange.check_apply_iff`: the check fails for values that the change gives, and for no
  others
* `SettingsChange.overlaid`: what a change leaves
-/

set_option autoImplicit false

namespace ProxyControl

open Document

/-! ## Values that are given -/

namespace SettingsChange

/-- Each value that a change gives passes the check, in settings that are otherwise those of a first
run. -/
structure IsAcceptable (c : SettingsChange) : Prop where
  lang : ∀ lang ∈ c.lang, Settings.check { Settings.initial with lang := lang } = .ok ()
  dnsCacheSize : ∀ size ∈ c.dnsCacheSize,
    Settings.check { Settings.initial with dnsCacheSize := size } = .ok ()
  logCapacity : ∀ capacity ∈ c.logCapacity,
    Settings.check { Settings.initial with logCapacity := capacity } = .ok ()

/-- Settings with the values of a change in the places of theirs. A language is taken in small
letters, and a blank path for none. -/
def overlay (c : SettingsChange) (s : Settings) : Settings where
  logLevel := c.logLevel.getD s.logLevel
  mode := c.mode.getD s.mode
  lang := (c.lang.map Text.asciiLower).getD s.lang
  dnsCacheSize := c.dnsCacheSize.getD s.dnsCacheSize
  autostart := c.autostart.getD s.autostart
  mitm := c.mitm.getD s.mitm
  autoMinimize := c.autoMinimize.getD s.autoMinimize
  logCapacity := c.logCapacity.getD s.logCapacity
  routeList := c.routeList.elim s.routeList fun path =>
    if Text.isBlankText path then none else some path

variable {c : SettingsChange} {s : Settings}

theorem isAcceptable_iff (c : SettingsChange) :
    c.IsAcceptable ↔ (∀ lang ∈ c.lang, Text.asciiLower lang ∈ Settings.languages) ∧
      (∀ size ∈ c.dnsCacheSize, Settings.isDnsCacheSize size.toNat = true) ∧
      ∀ capacity ∈ c.logCapacity, Settings.isLogCapacity capacity = true := by
  obtain ⟨hlang, hsize, hcapacity⟩ :=
    (Settings.check_eq_ok_iff _).1 Settings.isSettled_initial.check_eq_ok
  constructor
  · intro h
    refine ⟨fun lang hl => ?_, fun size hs => ?_, fun capacity hc => ?_⟩
    · exact ((Settings.check_eq_ok_iff _).1 (h.lang lang hl)).1
    · exact ((Settings.check_eq_ok_iff _).1 (h.dnsCacheSize size hs)).2.1
    · exact ((Settings.check_eq_ok_iff _).1 (h.logCapacity capacity hc)).2.2
  · rintro ⟨hlangs, hsizes, hcapacities⟩
    constructor
    · intro lang hl
      exact (Settings.check_eq_ok_iff _).2 ⟨hlangs lang hl, hsize, hcapacity⟩
    · intro size hs
      exact (Settings.check_eq_ok_iff _).2 ⟨hlang, hsizes size hs, hcapacity⟩
    · intro capacity hc
      exact (Settings.check_eq_ok_iff _).2 ⟨hlang, hsize, hcapacities capacity hc⟩

/-- **Only values that are given can fail the check.** -/
theorem check_apply_iff (c : SettingsChange) (hs : s.IsSettled) :
    (c.apply s).check = .ok () ↔ c.IsAcceptable := by
  rw [Settings.check_eq_ok_iff, isAcceptable_iff]
  refine and_congr ?_ (and_congr ?_ ?_)
  · cases hc : c.lang with
    | none => simpa [apply, hc, Settings.asciiLower_of_mem_languages hs.lang] using hs.lang
    | some lang => simp [apply, hc]
  · cases hc : c.dnsCacheSize with
    | none => simpa [apply, hc] using hs.dnsCacheSize
    | some size => simp [apply, hc]
  · cases hc : c.logCapacity with
    | none => simpa [apply, hc] using hs.logCapacity
    | some capacity => simp [apply, hc]

/-- What is loaded of a change to settings that were loaded before. -/
theorem tidied_apply (c : SettingsChange) (hs : s.IsSettled) :
    (c.apply s).tidied = c.overlay s := by
  have hlang : Text.asciiLower (c.lang.getD s.lang) =
      (c.lang.map Text.asciiLower).getD s.lang := by
    cases c.lang with
    | none => exact Settings.asciiLower_of_mem_languages hs.lang
    | some lang => rfl
  have hroute : (c.routeList.or s.routeList).filter (fun path => !Text.isBlankText path) =
      c.routeList.elim s.routeList fun path =>
        if Text.isBlankText path then none else some path := by
    cases c.routeList with
    | none => exact congrArg Settings.routeList hs.tidied_eq_self
    | some path => cases hb : Text.isBlankText path <;> simp [hb]
  simp only [Settings.tidied, apply, overlay, hlang, hroute]

end SettingsChange

/-! ## Files -/

section Files

variable {file : DocumentFile} {tree : FileTree}

theorem loadSettings_disk (file : DocumentFile) (tree : FileTree) :
    (loadSettings file (.ofTree tree)).2 = .ofTree tree := by
  have hread : (file.read (.ofTree tree)).2 = .ofTree tree := file.read_disk (.ofTree tree)
  have hsection : (file.section? settingsSection (.ofTree tree)).2 = .ofTree tree := by
    unfold DocumentFile.section?
    rcases hr : file.read (.ofTree tree) with ⟨e | t, d⟩ <;> rw [hr] at hread
    · exact hread
    · dsimp only
      split <;> exact hread
  unfold loadSettings
  rcases hs : file.section? settingsSection (.ofTree tree) with ⟨e | _ | v, d⟩ <;>
    rw [hs] at hsection
  · exact hsection
  · exact hsection
  · dsimp only
    split <;> exact hsection

/-- Settings are not saved to a file that cannot be read, and nothing is written. -/
theorem saveSettings_of_read_error {e : StoreError} {s : Settings}
    (he : (file.read (.ofTree tree)).1 = .error e) :
    ∃ e', saveSettings file s (.ofTree tree) = (.error e', .ofTree tree) := by
  have hread : file.read (.ofTree tree) = (.error e, .ofTree tree) :=
    Prod.ext he (file.read_disk (.ofTree tree))
  unfold saveSettings
  cases s.toTable with
  | error detail => exact ⟨_, rfl⟩
  | ok v => exact ⟨e, by simp only [DocumentFile.putSection, hread]⟩

end Files

/-! ## The command -/

namespace SettingsChange

variable {c : SettingsChange} {w : Workplace} {tree : FileTree}

variable (c w tree) in
/-- A change is checked before anything is written, and shown after it was saved. -/
theorem changeSettings_ofTree :
    changeSettings c w (.ofTree tree) =
      match (c.apply (loadSettings w.storeFile (.ofTree tree)).1.1).check with
      | .error e => (.failure .silent (.setting e), .ofTree tree)
      | .ok () =>
        match saveSettings w.storeFile (c.apply (loadSettings w.storeFile (.ofTree tree)).1.1)
          (.ofTree tree) with
        | (.error e, d) => (.failure .silent (.store e), d)
        | (.ok (), d) => showSettings w d := by
  have hdisk := loadSettings_disk w.storeFile tree
  unfold changeSettings
  generalize loadSettings w.storeFile (.ofTree tree) = loaded at hdisk ⊢
  obtain ⟨⟨settings, warnings⟩, d⟩ := loaded
  obtain rfl : d = .ofTree tree := hdisk
  rfl

theorem changeSettings_rejected {e : SettingError}
    (h : (c.apply (loadSettings w.storeFile (.ofTree tree)).1.1).check = .error e) :
    changeSettings c w (.ofTree tree) = (.failure .silent (.setting e), .ofTree tree) := by
  rw [changeSettings_ofTree, h]

theorem changeSettings_unsaved {e : StoreError} {d : Disk}
    (h : (c.apply (loadSettings w.storeFile (.ofTree tree)).1.1).check = .ok ())
    (hsave : saveSettings w.storeFile (c.apply (loadSettings w.storeFile (.ofTree tree)).1.1)
      (.ofTree tree) = (.error e, d)) :
    changeSettings c w (.ofTree tree) = (.failure .silent (.store e), d) := by
  rw [changeSettings_ofTree, h, hsave]

theorem changeSettings_saved {d : Disk}
    (h : (c.apply (loadSettings w.storeFile (.ofTree tree)).1.1).check = .ok ())
    (hsave : saveSettings w.storeFile (c.apply (loadSettings w.storeFile (.ofTree tree)).1.1)
      (.ofTree tree) = (.ok (), d)) :
    changeSettings c w (.ofTree tree) = showSettings w d := by
  rw [changeSettings_ofTree, h, hsave]

/-- **What a change of the settings leaves.** If the file cannot be read as a document, or the check
rejects a value that is given, the command fails and the disk is as it was. Else, where the file can
be replaced by a document that reads back, the command succeeds, whatever values the file had: the
settings that are loaded from then on are those from before with the given values in their places,
without a warning and as they are shown, and every other entry of the document is as it was. -/
theorem overlaid (c : SettingsChange) (w : Workplace) (tree : FileTree) :
    let before := (loadSettings w.storeFile (.ofTree tree)).1.1
    let ended := changeSettings c w (.ofTree tree)
    ((∃ e, (w.storeFile.read (.ofTree tree)).1 = .error e) ∨ ¬c.IsAcceptable →
      ended.1.code = 1 ∧ ended.2 = .ofTree tree) ∧
    ∀ t, (w.storeFile.read (.ofTree tree)).1 = .ok t → c.IsAcceptable →
      tree.Replaceable w.storeFile.path →
      w.storeFile.format.ReadsBack (putSettings t (c.apply before)) →
      ended.1 = .success (.lines (settingsLines w (c.overlay before))) ∧
        ∃ tree' u, ended.2 = .ofTree tree' ∧
          (loadSettings w.storeFile (.ofTree tree')).1 = (c.overlay before, []) ∧
          (w.storeFile.read (.ofTree tree')).1 = .ok u ∧
          ∀ name, name ≠ settingsSection → u.value? name = t.value? name := by
  intro before ended
  have hsettled : before.IsSettled := isSettled_loadSettings w.storeFile (.ofTree tree)
  have hcheck := c.check_apply_iff hsettled
  constructor
  · intro hbad
    cases hresult : (c.apply before).check with
    | error e =>
      have hended : ended = (.failure .silent (.setting e), .ofTree tree) :=
        changeSettings_rejected hresult
      rw [hended]
      exact ⟨rfl, rfl⟩
    | ok answer =>
      obtain ⟨e, he⟩ := hbad.resolve_right (not_not_intro (hcheck.1 hresult))
      obtain ⟨e', hsave⟩ := saveSettings_of_read_error (s := c.apply before) he
      have hended : ended = (.failure .silent (.store e'), .ofTree tree) :=
        changeSettings_unsaved hresult hsave
      rw [hended]
      exact ⟨rfl, rfl⟩
  · intro t ht hc hw hf
    have hok := hcheck.2 hc
    obtain ⟨tree', hsave, hread⟩ := saveSettings_ofTree hok ht hw hf
    have hload := loadSettings_putSettings hok hread
    rw [c.tidied_apply hsettled] at hload
    have hended : ended = showSettings w (.ofTree tree') := changeSettings_saved hok hsave
    refine ⟨?_, tree', _, ?_, hload, hread, fun name hname => ?_⟩
    · rw [hended]
      simp only [showSettings, hload]
      rfl
    · rw [hended]
      exact loadSettings_disk w.storeFile tree'
    · obtain ⟨v, hv⟩ := Settings.exists_toTable hok
      simp only [putSettings, hv, Table.value?_put, if_neg hname.symm]

/-! A change of the language, the number of lines and the route list, in a file whose own language
and number of names cannot be used. -/

def unsettledPlace : Workplace := ⟨[], .inDir "c"⟩

def unsettledTree : FileTree :=
  .directory [("c", .directory [("flightdeck.toml", .file
    "[default]\nDNSCache=0\nLang='xx'\nMITM=true\nRouteList='r'\n[o]\na=1\n".toUTF8)])]

def unsettledDocument : Table :=
  [("default", .table [("DNSCache", .integer 0), ("Lang", .string "xx"), ("MITM", .boolean true),
    ("RouteList", .string "r")]), ("o", .table [("a", .integer 1)])]

def unsettledChange (logCapacity : Nat) : SettingsChange where
  logLevel := none
  mode := none
  lang := some "ZH"
  dnsCacheSize := none
  autostart := none
  mitm := none
  autoMinimize := none
  logCapacity := some logCapacity
  routeList := some " "

/-- What the change finds. -/
theorem read_unsettledTree :
    (unsettledPlace.storeFile.read (.ofTree unsettledTree)).1 = .ok unsettledDocument ∧
    (loadSettings unsettledPlace.storeFile (.ofTree unsettledTree)).1.1 =
      { Settings.initial with mitm := true, routeList := some "r" } ∧
    unsettledTree.Replaceable unsettledPlace.storeFile.path := by
  refine ⟨eq_ok_of_toOption (by decide +kernel), by decide +kernel,
    FileTree.Ready.replaceable ⟨?_, ?_, ?_⟩⟩
  · decide +kernel
  · exact ⟨["c", "flightdeck.toml.tmp"], eq_ok_of_toOption (by decide +kernel)⟩
  · exact ⟨["c", "flightdeck.toml"], eq_ok_of_toOption (by decide +kernel)⟩

/-- The change is made, unless it asks for fewer lines than the display can keep. -/
theorem overlaid_unsettledTree :
    (∃ tree' u, (changeSettings (unsettledChange 10) unsettledPlace (.ofTree unsettledTree)).2 =
        .ofTree tree' ∧
      (loadSettings unsettledPlace.storeFile (.ofTree tree')).1 =
        ({ Settings.initial with lang := "zh", mitm := true, logCapacity := 10 }, []) ∧
      (unsettledPlace.storeFile.read (.ofTree tree')).1 = .ok u ∧
      u.value? "o" = some (.table [("a", .integer 1)])) ∧
    (changeSettings (unsettledChange 9) unsettledPlace (.ofTree unsettledTree)).1.code = 1 ∧
      (changeSettings (unsettledChange 9) unsettledPlace (.ofTree unsettledTree)).2 =
        .ofTree unsettledTree := by
  obtain ⟨hread, hload, hreplaceable⟩ := read_unsettledTree
  have haccepted : (unsettledChange 10).IsAcceptable := by
    rw [isAcceptable_iff]
    simp only [unsettledChange, Option.mem_def, Option.some.injEq, forall_eq', reduceCtorEq,
      false_implies, implies_true, true_and]
    decide
  have hrejected : ¬(unsettledChange 9).IsAcceptable := by
    intro h
    have hcapacity := ((isAcceptable_iff _).1 h).2.2 9 rfl
    exact absurd hcapacity (by decide)
  have hback : unsettledPlace.storeFile.format.ReadsBack (putSettings unsettledDocument
      ((unsettledChange 10).apply
        { Settings.initial with mitm := true, routeList := some "r" })) :=
    (Format.readsBack_pretty_iff _).2 (by decide +kernel)
  refine ⟨?_, (overlaid (unsettledChange 9) unsettledPlace unsettledTree).1 (.inr hrejected)⟩
  obtain ⟨-, tree', u, hended, hloaded, hu, hothers⟩ :=
    (overlaid (unsettledChange 10) unsettledPlace unsettledTree).2 unsettledDocument hread haccepted
      hreplaceable (hload.symm ▸ hback)
  rw [hload] at hloaded
  refine ⟨tree', u, hended, hloaded.trans ?_, hu, (hothers "o" (by decide)).trans rfl⟩
  decide +kernel

end SettingsChange

end ProxyControl
