import ProxyControl.Proofs.Store.Rewriting
import ProxyControl.Proofs.Text.LetterCase
import ProxyControl.Store.Settings

/-!
# Settings saved and loaded

Settings that pass the check can always be written, and are loaded without a warning; only the case
of the language and a blank path are lost on the way. Settings that were loaded pass it and have
nothing to lose, so they are loaded as they were written. They stand in one section of the document,
which is all that is changed when they are saved and all that is looked at when they are loaded.

## Main definitions

* `Settings.tidied`: what is loaded of settings that pass the check
* `Settings.IsSettled`: settings with values that every setting takes
* `putSettings`: a document with settings in place of those it had

## Main results

* `isSettled_loadSettings`: settings that were loaded are settled
* `loadSettings_putSettings`: settings that pass the check are loaded from the document that they
  were put into
* `saveSettings_ofTree`: they are saved where the file can be replaced
-/

set_option autoImplicit false

namespace ProxyControl

open Document

/-! ## Settings with values that every setting takes -/

/-- Settings that are read as they are written. -/
structure Settings.IsSettled (s : Settings) : Prop where
  lang : s.lang ∈ Settings.languages
  dnsCacheSize : Settings.isDnsCacheSize s.dnsCacheSize.toNat = true
  logCapacity : Settings.isLogCapacity s.logCapacity = true
  routeList : ∀ path ∈ s.routeList, Text.isBlankText path = false

namespace Settings

theorem isDnsCacheSize_iff (n : Int) : isDnsCacheSize n = true ↔ 1 ≤ n ∧ n ≤ 1048576 := by
  rw [isDnsCacheSize, Bool.and_eq_true, decide_eq_true_eq, decide_eq_true_eq]
  rfl

theorem isLogCapacity_iff (n : Int) : isLogCapacity n = true ↔ 10 ≤ n ∧ n ≤ 10000 := by
  rw [isLogCapacity, Bool.and_eq_true, decide_eq_true_eq, decide_eq_true_eq]
  rfl

theorem isSettled_initial : initial.IsSettled where
  lang := by decide
  dnsCacheSize := by decide
  logCapacity := by decide
  routeList := nofun

/-- The check is about three values, each by itself. -/
theorem check_eq_ok_iff (s : Settings) :
    s.check = .ok () ↔ Text.asciiLower s.lang ∈ languages ∧
      isDnsCacheSize s.dnsCacheSize.toNat = true ∧ isLogCapacity s.logCapacity = true := by
  unfold check
  split
  · next hlang => simp [hlang]
  · next hlang =>
    split
    · next hsize => simp_all
    · next hsize =>
      split
      · next hcapacity => simp_all
      · next hcapacity => simp_all

/-- Settings with the language in small letters, and no path where it is blank. -/
def tidied (s : Settings) : Settings :=
  { s with
    lang := Text.asciiLower s.lang
    routeList := s.routeList.filter fun path => !Text.isBlankText path }

theorem asciiLower_of_mem_languages {lang : String} (h : lang ∈ languages) :
    Text.asciiLower lang = lang := by
  simp only [languages, List.mem_cons, List.not_mem_nil, or_false] at h
  rcases h with hl | hl <;> rw [hl] <;> decide

/-- The languages have no letter that a capital outside ASCII becomes. -/
theorem lower_eq_iff_of_mem_languages {lang : String} (h : lang ∈ languages) (value : String) :
    Text.lower value = lang ↔ Text.asciiLower value = lang := by
  refine Text.lower_eq_iff ?_ value
  simp only [languages, List.mem_cons, List.not_mem_nil, or_false] at h
  rcases h with hl | hl <;> rw [hl] <;> decide

theorem lower_eq_asciiLower {value : String} (h : Text.asciiLower value ∈ languages) :
    Text.lower value = Text.asciiLower value :=
  (lower_eq_iff_of_mem_languages h value).2 rfl

/-- **A value is read as a language exactly if it passes the check as one**, although the two make it
small in different ways. -/
theorem lower_mem_languages_iff (value : String) :
    Text.lower value ∈ languages ↔ Text.asciiLower value ∈ languages := by
  constructor
  · intro h
    rwa [(lower_eq_iff_of_mem_languages h value).1 rfl]
  · intro h
    rwa [lower_eq_asciiLower h]

namespace IsSettled

variable {s : Settings}

theorem check_eq_ok (h : s.IsSettled) : s.check = .ok () := by
  rw [check_eq_ok_iff, asciiLower_of_mem_languages h.lang]
  exact ⟨h.lang, h.dnsCacheSize, h.logCapacity⟩

theorem tidied_eq_self (h : s.IsSettled) : s.tidied = s := by
  have hroute : s.routeList.filter (fun path => !Text.isBlankText path) = s.routeList := by
    cases hr : s.routeList with
    | none => rfl
    | some path => simp [h.routeList path hr]
  rw [tidied, asciiLower_of_mem_languages h.lang, hroute]

/-- Another mode, and inspection or none, are values that every setting takes. -/
theorem withChoice (h : s.IsSettled) (mode : Mode) (mitm : Bool) :
    IsSettled { s with mode := mode, mitm := mitm } :=
  ⟨h.lang, h.dnsCacheSize, h.logCapacity, h.routeList⟩

end IsSettled

end Settings

namespace RawSettings

variable (r : RawSettings)

theorem readLang_mem_languages : r.readLang.1 ∈ Settings.languages := by
  unfold readLang
  split
  · exact Settings.isSettled_initial.lang
  · split
    · assumption
    · exact Settings.isSettled_initial.lang

theorem isDnsCacheSize_readDnsCache :
    Settings.isDnsCacheSize r.readDnsCache.1.toNat = true := by
  unfold readDnsCache
  split
  · exact Settings.isSettled_initial.dnsCacheSize
  · next value _ =>
    split
    · next hsize =>
      obtain ⟨hlow, hhigh⟩ := (Settings.isDnsCacheSize_iff value).1 hsize
      have hnat : (UInt32.ofNat value.toNat).toNat = value.toNat :=
        UInt32.toNat_ofNat_of_lt' (show value.toNat < 4294967296 by omega)
      rw [Settings.isDnsCacheSize_iff]
      dsimp only
      omega
    · exact Settings.isSettled_initial.dnsCacheSize

theorem isLogCapacity_readLogCapacity :
    Settings.isLogCapacity r.readLogCapacity.1 = true := by
  unfold readLogCapacity
  split
  · exact Settings.isSettled_initial.logCapacity
  · next value _ =>
    split
    · next hsize =>
      rw [Settings.isLogCapacity_iff] at hsize ⊢
      dsimp only
      omega
    · exact Settings.isSettled_initial.logCapacity

/-- Whatever a file gives, the settings are settled. -/
theorem isSettled_validate : r.validate.1.IsSettled where
  lang := r.readLang_mem_languages
  dnsCacheSize := r.isDnsCacheSize_readDnsCache
  logCapacity := r.isLogCapacity_readLogCapacity
  routeList path hp := by
    have hkept := (Option.filter_eq_some_iff.1 hp).2
    rwa [Bool.not_eq_true'] at hkept

end RawSettings

/-! ## Settings written and read -/

/-- What is written for settings. -/
def Settings.raw (s : Settings) : RawSettings where
  logLevel := s.logLevel.name
  proxyType := s.mode.name
  lang := s.lang
  dnsCache := some s.dnsCacheSize.toNat
  autostart := s.autostart
  mitm := s.mitm
  autoMin := s.autoMinimize
  logCapacity := some s.logCapacity
  routeList := s.routeList

theorem LogLevel.read?_name (l : LogLevel) : LogLevel.read? l.name = some l := by
  cases l <;> decide

theorem Mode.read?_name (m : Mode) : Mode.read? m.name = some m := by
  cases m <;> decide

/-- A table gives back what settings were written to it. -/
theorem RawSettings.ofTable?_toTable {s : Settings} {v : Table} (h : s.toTable = .ok v) :
    RawSettings.ofTable? v = some s.raw := by
  unfold Settings.toTable at h
  split at h
  · cases h
    cases hr : s.routeList <;>
      simp [hr, ofTable?, Settings.raw, Table.optional?, Table.field?, Table.ofEntries,
        Table.value?_put, Value.text?, Value.flag?, Value.whole?]
  · cases h

namespace Settings

variable {s : Settings}

theorem exists_toTable_of_isInteger (h : isInteger s.logCapacity = true) :
    ∃ v, s.toTable = .ok v := by
  unfold toTable
  rw [if_pos h]
  exact ⟨_, rfl⟩

/-- Settings that pass the check can be written. -/
theorem exists_toTable (h : s.check = .ok ()) : ∃ v, s.toTable = .ok v := by
  obtain ⟨-, -, hcapacity⟩ := (check_eq_ok_iff s).1 h
  have hsize := (isLogCapacity_iff _).1 hcapacity
  refine exists_toTable_of_isInteger ?_
  simp only [isInteger, Bool.and_eq_true, decide_eq_true_eq]
  omega

/-- Settings that pass the check are read without a warning. -/
theorem validate_raw (h : s.check = .ok ()) : s.raw.validate = (s.tidied, []) := by
  obtain ⟨hlang, hsize, hcapacity⟩ := (check_eq_ok_iff s).1 h
  have hlevel : s.raw.readLogLevel = (s.logLevel, []) := by
    simp [RawSettings.readLogLevel, raw, LogLevel.read?_name]
  have hmode : s.raw.readMode = (s.mode, []) := by
    simp [RawSettings.readMode, raw, Mode.read?_name]
  have hlang' : s.raw.readLang = (Text.asciiLower s.lang, []) := by
    simp [RawSettings.readLang, raw, lower_eq_asciiLower hlang, hlang]
  have hdns : s.raw.readDnsCache = (s.dnsCacheSize, []) := by
    simp [RawSettings.readDnsCache, raw, hsize]
  have hlog : s.raw.readLogCapacity = (s.logCapacity, []) := by
    simp [RawSettings.readLogCapacity, raw, hcapacity]
  simp only [RawSettings.validate, hlevel, hmode, hlang', hdns, hlog]
  simp [raw, tidied]

end Settings

/-! ## Settings in a document -/

/-- A document with settings in place of those it had; settings that cannot be written leave it as
it is. -/
def putSettings (t : Table) (s : Settings) : Table :=
  match s.toTable with
  | .ok v => t.put settingsSection (.table v)
  | .error _ => t

/-- Settings take the place of no profile. -/
theorem profilesOfDocument_putSettings (t : Table) (s : Settings) :
    profilesOfDocument (putSettings t s) = profilesOfDocument t := by
  have hentries : profileEntries (putSettings t s) = profileEntries t := by
    unfold putSettings
    split
    · exact profileEntries_put (by decide) t _
    · rfl
  exact congrArg (List.filterMap fun e : String × Value =>
    (ProfileSection.ofValue? e.2).bind (Profile.ofSection? e.1)) hentries

variable {file : DocumentFile} {tree : FileTree} {t : Table} {s : Settings}

theorem DocumentFile.section?_ofTree (ht : (file.read (.ofTree tree)).1 = .ok t) (name : String) :
    file.section? name (.ofTree tree) =
      (.ok (match t.value? name with | some (.table v) => some v | _ => none), .ofTree tree) := by
  unfold section?
  rw [read_ofTree_eq ht]
  dsimp only
  cases t.value? name with
  | none => rfl
  | some value => cases value <;> rfl

/-- The settings of a file are those of its document. -/
theorem loadSettings_ofTree (ht : (file.read (.ofTree tree)).1 = .ok t) :
    (loadSettings file (.ofTree tree)).2 = .ofTree tree ∧
    (loadSettings file (.ofTree tree)).1 =
      match t.value? settingsSection with
      | some (.table v) =>
        match RawSettings.ofTable? v with
        | some raw => raw.validate
        | none =>
          (Settings.initial,
            ["[default] table in '" ++ file.path.shown ++ "' is malformed: " ++ mistypedDetail ++
              defaultsNotice])
      | _ => (Settings.initial, []) := by
  unfold loadSettings
  rw [DocumentFile.section?_ofTree ht]
  cases t.value? settingsSection with
  | none => exact ⟨rfl, rfl⟩
  | some value =>
    cases value with
    | table v => cases hv : RawSettings.ofTable? v <;> simp [hv]
    | _ => exact ⟨rfl, rfl⟩

/-- Settings are loaded from their section alone. -/
theorem loadSettings_congr {u : Table} {tree' : FileTree}
    (ht : (file.read (.ofTree tree)).1 = .ok t) (hu : (file.read (.ofTree tree')).1 = .ok u)
    (h : u.value? settingsSection = t.value? settingsSection) :
    (loadSettings file (.ofTree tree')).1 = (loadSettings file (.ofTree tree)).1 := by
  rw [(loadSettings_ofTree ht).2, (loadSettings_ofTree hu).2, h]

/-- Settings that were loaded are settled, whatever was found. -/
theorem isSettled_loadSettings (file : DocumentFile) (d : Disk) :
    (loadSettings file d).1.1.IsSettled := by
  unfold loadSettings
  rcases file.section? settingsSection d with ⟨e | _ | v, d'⟩
  · exact Settings.isSettled_initial
  · exact Settings.isSettled_initial
  · cases hv : RawSettings.ofTable? v with
    | none => simpa [hv] using Settings.isSettled_initial
    | some raw => simpa [hv] using raw.isSettled_validate

/-- Settings are loaded from the document that they were put into as what was written for them is
read. -/
theorem loadSettings_of_toTable {v : Table} (hv : s.toTable = .ok v)
    (ht : (file.read (.ofTree tree)).1 = .ok (putSettings t s)) :
    (loadSettings file (.ofTree tree)).1 = s.raw.validate := by
  have hvalue : (putSettings t s).value? settingsSection = some (.table v) := by
    simp [putSettings, hv, Table.value?_put]
  rw [(loadSettings_ofTree ht).2, hvalue]
  simp only [RawSettings.ofTable?_toTable hv]

/-- **Settings that pass the check are loaded from the document that they were put into**, without a
warning. -/
theorem loadSettings_putSettings (hs : s.check = .ok ())
    (ht : (file.read (.ofTree tree)).1 = .ok (putSettings t s)) :
    (loadSettings file (.ofTree tree)).1 = (s.tidied, []) := by
  obtain ⟨v, hv⟩ := Settings.exists_toTable hs
  rw [loadSettings_of_toTable hv ht]
  exact Settings.validate_raw hs

/-- Settings that can be written are saved where the file can be replaced. -/
theorem saveSettings_of_toTable {v : Table} (hv : s.toTable = .ok v)
    (ht : (file.read (.ofTree tree)).1 = .ok t) (hw : tree.Replaceable file.path)
    (hf : file.format.ReadsBack (putSettings t s)) :
    ∃ tree', saveSettings file s (.ofTree tree) = (.ok (), .ofTree tree') ∧
      (file.read (.ofTree tree')).1 = .ok (putSettings t s) := by
  have hput : putSettings t s = t.put settingsSection (.table v) := by
    simp only [putSettings, hv]
  obtain ⟨tree', hwrite, hread, -⟩ := DocumentFile.write_ofTree hw hf
  refine ⟨tree', ?_, hread⟩
  rw [hput] at hwrite
  simp only [saveSettings, hv, DocumentFile.putSection, DocumentFile.read_ofTree_eq ht, hwrite]

/-- Settings that pass the check are saved where the file can be replaced. -/
theorem saveSettings_ofTree (hs : s.check = .ok ()) (ht : (file.read (.ofTree tree)).1 = .ok t)
    (hw : tree.Replaceable file.path) (hf : file.format.ReadsBack (putSettings t s)) :
    ∃ tree', saveSettings file s (.ofTree tree) = (.ok (), .ofTree tree') ∧
      (file.read (.ofTree tree')).1 = .ok (putSettings t s) := by
  obtain ⟨v, hv⟩ := Settings.exists_toTable hs
  exact saveSettings_of_toTable hv ht hw hf

end ProxyControl
