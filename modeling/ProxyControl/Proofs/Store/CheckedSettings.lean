import ProxyControl.Proofs.Store.SettingKeys

/-!
# Settings saved unchecked

The check and the reader of settings were written apart, each with its own ranges and its own way to
make a language small. They are two views of the same values: what the check would refuse is what the
reader replaces. So settings that are saved without the check lose, when they are loaded, the values
that it would have refused, each with a warning, and nothing else but the case of the language and a
blank path.

## Main definitions

* `Settings.refusal?`: what the check says about the value under a key by itself
* `Settings.unfit`: the keys whose values the check refuses

## Main results

* `check_eq`: the check tells of the first value that is refused
* `isSome_warning?_raw`: the reader warns about the values that are refused
* `agree_validate_raw`: it replaces these, and takes the others
* `loadSettings_saved`: what is loaded of settings that were saved
-/

set_option autoImplicit false

namespace ProxyControl

open Document

namespace Settings

/-- What is wrong with the value in the field of a key. Six of the fields cannot hold a wrong one. -/
def refusal? (s : Settings) : SettingKey → Option SettingError
  | .lang =>
    if Text.asciiLower s.lang ∈ ["en", "zh"] then none
    else some (.valueOutOfRange "lang" s.lang "en or zh")
  | .dnsCache =>
    if 1 ≤ s.dnsCacheSize.toNat ∧ s.dnsCacheSize.toNat ≤ 1048576 then none
    else some (.valueOutOfRange "dns-cache" (toString s.dnsCacheSize.toNat) "1-1048576")
  | .logCapacity =>
    if 10 ≤ s.logCapacity ∧ s.logCapacity ≤ 10000 then none
    else some (.valueOutOfRange "log-capacity" (toString s.logCapacity) "10-10000")
  | .logLevel => none
  | .proxyType => none
  | .autostart => none
  | .mitm => none
  | .autoMin => none
  | .routeList => none

/-- The keys of the values that are refused, in the order in which they are looked at. -/
def unfit (s : Settings) : List SettingKey :=
  SettingKey.all.filter fun key => (s.refusal? key).isSome

theorem dnsCache_cast_iff (n : Nat) :
    (1 ≤ (n : Int) ∧ (n : Int) ≤ 1048576) ↔ 1 ≤ n ∧ n ≤ 1048576 := by
  omega

theorem logCapacity_cast_iff (n : Nat) :
    (10 ≤ (n : Int) ∧ (n : Int) ≤ 10000) ↔ 10 ≤ n ∧ n ≤ 10000 := by
  omega

variable (s : Settings)

theorem mem_unfit_iff {s : Settings} {key : SettingKey} :
    key ∈ s.unfit ↔ (s.refusal? key).isSome = true := by
  have hall : key ∈ SettingKey.all := by cases key <;> decide
  simp [unfit, hall]

/-- The first refusal is the first of the three that there can be. -/
theorem bind_head?_unfit : s.unfit.head?.bind s.refusal? =
    (s.refusal? .lang).or ((s.refusal? .dnsCache).or (s.refusal? .logCapacity)) := by
  have hunfit : s.unfit = [SettingKey.lang, .dnsCache, .logCapacity].filter
      fun key => (s.refusal? key).isSome := rfl
  rw [hunfit]
  cases hlang : s.refusal? .lang with
  | some e => simp [hlang]
  | none =>
    cases hdns : s.refusal? .dnsCache with
    | some e => simp [hlang, hdns]
    | none => cases hlog : s.refusal? .logCapacity <;> simp [hlang, hdns, hlog]

/-- **The check tells of the first value that is refused.** -/
theorem check_eq : s.check = (s.unfit.head?.bind s.refusal?).elim (.ok ()) .error := by
  have hlangs : String.intercalate " or " languages = "en or zh" := by decide
  have hsizes : range 1 maxDnsCacheSize = "1-1048576" := by decide
  have hcapacities : range minLogCapacity maxLogCapacity = "10-10000" := by decide
  rw [bind_head?_unfit, check, hlangs, hsizes, hcapacities]
  simp only [refusal?, languages, Bool.not_eq_true', ← Bool.not_eq_true, isDnsCacheSize_iff,
    isLogCapacity_iff, dnsCache_cast_iff, logCapacity_cast_iff]
  by_cases hl : Text.asciiLower s.lang ∈ ["en", "zh"] <;>
    by_cases hd : 1 ≤ s.dnsCacheSize.toNat ∧ s.dnsCacheSize.toNat ≤ 1048576 <;>
      by_cases hc : 10 ≤ s.logCapacity ∧ s.logCapacity ≤ 10000 <;>
        simp only [hl, hd, hc, not_true, not_false_eq_true, if_true, if_false] <;> rfl

theorem check_eq_ok_iff_unfit : s.check = .ok () ↔ s.unfit = [] := by
  rw [check_eq]
  cases hunfit : s.unfit with
  | nil => simp
  | cons key keys =>
    have hkey : (s.refusal? key).isSome = true := mem_unfit_iff.1 (hunfit ▸ List.mem_cons_self)
    obtain ⟨e, he⟩ := Option.isSome_iff_exists.1 hkey
    simp [he]

/-! ## What was written, and how it is read -/

/-- **The reader warns about the values that the check refuses**, and about no others. -/
theorem isSome_warning?_raw (key : SettingKey) :
    (s.raw.warning? key).isSome = (s.refusal? key).isSome := by
  cases key with
  | logLevel => simp [RawSettings.warning?, refusal?, raw, LogLevel.read?_name, Option.filter_some]
  | proxyType => simp [RawSettings.warning?, refusal?, raw, Mode.read?_name, Option.filter_some]
  | lang =>
    have hlower : Text.lower s.lang ∈ ["en", "zh"] ↔ Text.asciiLower s.lang ∈ ["en", "zh"] :=
      lower_mem_languages_iff s.lang
    by_cases h : Text.asciiLower s.lang ∈ ["en", "zh"] <;>
      simp only [RawSettings.warning?, refusal?, raw, Option.filter_some, hlower, h] <;> rfl
  | dnsCache =>
    by_cases h : 1 ≤ s.dnsCacheSize.toNat ∧ s.dnsCacheSize.toNat ≤ 1048576 <;>
      simp only [RawSettings.warning?, refusal?, raw, Option.filter_some, dnsCache_cast_iff, h] <;> rfl
  | logCapacity =>
    by_cases h : 10 ≤ s.logCapacity ∧ s.logCapacity ≤ 10000 <;>
      simp only [RawSettings.warning?, refusal?, raw, Option.filter_some, logCapacity_cast_iff, h] <;> rfl
  | autostart => rfl
  | mitm => rfl
  | autoMin => rfl
  | routeList => rfl

/-- Each value that is refused has one warning, in the order in which they are looked at. -/
theorem map_some_validate_raw : s.raw.validate.2.map some = s.unfit.map s.raw.warning? := by
  have hunfit : s.unfit = SettingKey.all.filter (Option.isSome ∘ s.raw.warning?) :=
    List.filter_congr fun key _ => (s.isSome_warning?_raw key).symm
  rw [RawSettings.validate_snd, List.map_filterMap_some_eq_filter_map_isSome, List.filter_map, hunfit]

/-- **The reader replaces the values that the check refuses**, and takes the others as they are, in
small letters or as no path. -/
theorem agree_validate_raw (key : SettingKey) :
    s.raw.validate.1.Agree (if key ∈ s.unfit then initial else s.tidied) key := by
  have hgives := s.raw.gives_validate
  simp only [mem_unfit_iff]
  cases key with
  | logLevel =>
    refine hgives.logLevel.trans ?_
    simp [refusal?, raw, tidied, LogLevel.read?_name]
  | proxyType =>
    refine hgives.mode.trans ?_
    simp [refusal?, raw, tidied, Mode.read?_name]
  | lang =>
    refine hgives.lang.trans ?_
    have hlower : Text.lower s.lang ∈ ["en", "zh"] ↔ Text.asciiLower s.lang ∈ ["en", "zh"] :=
      lower_mem_languages_iff s.lang
    by_cases h : Text.asciiLower s.lang ∈ ["en", "zh"]
    · have hsame : Text.lower s.lang = Text.asciiLower s.lang := lower_eq_asciiLower h
      simp only [raw, refusal?, tidied, Option.map_some, Option.filter_some, hsame, h]
      rfl
    · simp only [raw, refusal?, Option.map_some, Option.filter_some, hlower, h]
      rfl
  | dnsCache =>
    refine UInt32.toNat_inj.1 (Int.ofNat_inj.1 (hgives.dnsCacheSize.trans ?_))
    by_cases h : 1 ≤ s.dnsCacheSize.toNat ∧ s.dnsCacheSize.toNat ≤ 1048576 <;>
      simp only [raw, refusal?, Option.filter_some, dnsCache_cast_iff, h] <;> rfl
  | logCapacity =>
    refine Int.ofNat_inj.1 (hgives.logCapacity.trans ?_)
    by_cases h : 10 ≤ s.logCapacity ∧ s.logCapacity ≤ 10000 <;>
      simp only [raw, refusal?, Option.filter_some, logCapacity_cast_iff, h] <;> rfl
  | autostart => exact hgives.autostart
  | mitm => exact hgives.mitm
  | autoMin => exact hgives.autoMinimize
  | routeList => exact hgives.routeList

end Settings

/-- **Settings that are saved unchecked are loaded as the check has it.** Any settings that can be
written are saved where the file can be replaced by a document that reads back. Loading them gives no
warning exactly if they pass the check, and then what is loaded are the same settings, with the
language in small letters and without a blank path. Else each value that the check refuses has one
warning and is replaced by its default, all other values are loaded as before, and the check tells of
the first of the refused ones. -/
theorem loadSettings_saved {file : DocumentFile} {tree : FileTree} {t : Table} {s : Settings}
    (hn : isInteger s.logCapacity = true) (ht : (file.read (.ofTree tree)).1 = .ok t)
    (hw : tree.Replaceable file.path) (hf : file.format.ReadsBack (putSettings t s)) :
    ∃ tree', saveSettings file s (.ofTree tree) = (.ok (), .ofTree tree') ∧
      let loaded := (loadSettings file (.ofTree tree')).1
      (loaded.2 = [] ↔ s.check = .ok ()) ∧
      (s.check = .ok () → loaded.1 = s.tidied) ∧
      loaded.2.map some = s.unfit.map s.raw.warning? ∧
      (∀ key, loaded.1.Agree (if key ∈ s.unfit then Settings.initial else s.tidied) key) ∧
      s.check = (s.unfit.head?.bind s.refusal?).elim (.ok ()) .error := by
  obtain ⟨v, hv⟩ := Settings.exists_toTable_of_isInteger hn
  obtain ⟨tree', hsave, hread⟩ := saveSettings_of_toTable hv ht hw hf
  refine ⟨tree', hsave, ?_⟩
  dsimp only
  rw [loadSettings_of_toTable hv hread]
  have hwarnings := s.map_some_validate_raw
  refine ⟨?_, fun hcheck => ?_, hwarnings, s.agree_validate_raw, s.check_eq⟩
  · rw [s.check_eq_ok_iff_unfit, ← List.map_eq_nil_iff (f := some), hwarnings, List.map_eq_nil_iff]
  · rw [Settings.validate_raw hcheck]

/-- Settings with three values that the check refuses. -/
def unfitSettings : Settings :=
  { Settings.initial with
    mode := .global, lang := "FR", dnsCacheSize := 0, logCapacity := 9, routeList := some " " }

/-- The three are replaced, the mode is kept, and the check tells of the language. -/
theorem loadSettings_saved_unfit :
    ∃ tree', saveSettings FileHistory.renamedFile unfitSettings (.ofTree FileHistory.renamed) =
        (.ok (), .ofTree tree') ∧
      (loadSettings FileHistory.renamedFile (.ofTree tree')).1.2 =
        ["[default] Lang = \"FR\" is not supported. Using default (en).",
          "[default] DNSCache = 0 is out of range (1-1048576). Using default (1024).",
          "[default] LogCapacity = 9 is out of range (10-10000). Using default (100)."] ∧
      (loadSettings FileHistory.renamedFile (.ofTree tree')).1.1.lang = "en" ∧
      (loadSettings FileHistory.renamedFile (.ofTree tree')).1.1.mode = .global ∧
      unfitSettings.check = .error (.valueOutOfRange "lang" "FR" "en or zh") := by
  have hw : FileHistory.renamed.Replaceable FileHistory.renamedFile.path := by
    refine FileTree.Ready.replaceable ⟨?_, ?_, ?_⟩
    · decide +kernel
    · exact ⟨["s.tmp"], eq_ok_of_toOption (by decide +kernel)⟩
    · exact ⟨["s"], eq_ok_of_toOption (by decide +kernel)⟩
  have hback : FileHistory.renamedFile.format.ReadsBack
      (putSettings FileHistory.renamedDocument unfitSettings) :=
    (Format.readsBack_pretty_iff _).2 (by decide +kernel)
  obtain ⟨tree', hsave, -, -, hwarnings, hagree, hcheck⟩ :=
    loadSettings_saved (by decide) FileHistory.read_renamed hw hback
  refine ⟨tree', hsave, ?_, hagree .lang, hagree .proxyType, hcheck⟩
  refine List.map_injective_iff.2 (fun _ _ => Option.some.inj) (hwarnings.trans ?_)
  decide +kernel

end ProxyControl
