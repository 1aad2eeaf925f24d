import Mathlib.Data.List.Basic
import ProxyControl.Proofs.Store.SavedSettings

/-!
# Settings read key by key

The nine values that a file gives for the settings are read apart: each setting comes from the value
under its own key, and from the default where there is none or none that it takes. What is said about
a value depends on that value alone, too. All five readers that can reject a value are one reader, with
their own values, defaults and words.

## Main definitions

* `SettingKey`: the keys of a file's settings
* `RawSettings.Agree`, `Settings.Agree`: files, and settings, that are the same under a key
* `RawSettings.Gives`: settings that are, field by field, what the values of a file give
* `RawSettings.warning?`: what is said about the value under a key
* `readOr`: a value that is read, or a default and a warning

## Main results

* `gives_validate`: each setting is read from its own key
* `validate_snd`: each value that is not taken has one warning
* `validate_key_by_key`: settings are read key by key, pass the check, and are read again as they are
-/

set_option autoImplicit false

namespace ProxyControl

open Document

/-! ## Keys -/

/-- A key of the settings in a file. -/
inductive SettingKey where
  | logLevel
  | proxyType
  | lang
  | dnsCache
  | autostart
  | mitm
  | autoMin
  | logCapacity
  | routeList
  deriving DecidableEq, Repr

/-- The keys in the order in which they are written and complained about. -/
def SettingKey.all : List SettingKey :=
  [logLevel, proxyType, lang, dnsCache, autostart, mitm, autoMin, logCapacity, routeList]

/-- Two files that give the same under a key, be it a value or none. -/
def RawSettings.Agree (r r' : RawSettings) : SettingKey → Prop
  | .logLevel => r.logLevel = r'.logLevel
  | .proxyType => r.proxyType = r'.proxyType
  | .lang => r.lang = r'.lang
  | .dnsCache => r.dnsCache = r'.dnsCache
  | .autostart => r.autostart = r'.autostart
  | .mitm => r.mitm = r'.mitm
  | .autoMin => r.autoMin = r'.autoMin
  | .logCapacity => r.logCapacity = r'.logCapacity
  | .routeList => r.routeList = r'.routeList

/-- Settings that are the same in the field of a key. -/
def Settings.Agree (s s' : Settings) : SettingKey → Prop
  | .logLevel => s.logLevel = s'.logLevel
  | .proxyType => s.mode = s'.mode
  | .lang => s.lang = s'.lang
  | .dnsCache => s.dnsCacheSize = s'.dnsCacheSize
  | .autostart => s.autostart = s'.autostart
  | .mitm => s.mitm = s'.mitm
  | .autoMin => s.autoMinimize = s'.autoMinimize
  | .logCapacity => s.logCapacity = s'.logCapacity
  | .routeList => s.routeList = s'.routeList

/-! ## What a file gives -/

namespace RawSettings

/-- Settings that are read from a file key by key. Numbers are taken as they are, whatever the number
of bits that hold them. -/
structure Gives (r : RawSettings) (s : Settings) : Prop where
  logLevel : s.logLevel = (r.logLevel.bind LogLevel.read?).getD .log
  mode : s.mode = (r.proxyType.bind Mode.read?).getD .iplist
  lang : s.lang = ((r.lang.map Text.lower).filter (· ∈ ["en", "zh"])).getD "en"
  dnsCacheSize : (s.dnsCacheSize.toNat : Int) =
    (r.dnsCache.filter fun n => 1 ≤ n ∧ n ≤ 1048576).getD 1024
  autostart : s.autostart = r.autostart.getD false
  mitm : s.mitm = r.mitm.getD false
  autoMinimize : s.autoMinimize = r.autoMin.getD false
  logCapacity : (s.logCapacity : Int) = (r.logCapacity.filter fun n => 10 ≤ n ∧ n ≤ 10000).getD 100
  routeList : s.routeList = r.routeList.filter fun path => !Text.isBlankText path

/-- The warning about the value under a key, if there is one that the setting does not take. -/
def warning? (r : RawSettings) : SettingKey → Option String
  | .logLevel => (r.logLevel.filter fun name => (LogLevel.read? name).isNone).map fun name =>
      "[default] LogLevel = \"" ++ name ++ "\" is not recognised. " ++
        "Valid values: dbg, log, warn, err, off. Using default (log)."
  | .proxyType => (r.proxyType.filter fun name => (Mode.read? name).isNone).map fun name =>
      "[default] ProxyType = \"" ++ name ++ "\" is not recognised. " ++
        "Valid values: iplist, global, none. Using default (iplist)."
  | .lang => (r.lang.filter fun lang => Text.lower lang ∉ ["en", "zh"]).map fun lang =>
      "[default] Lang = \"" ++ lang ++ "\" is not supported. Using default (en)."
  | .dnsCache => (r.dnsCache.filter fun n => ¬(1 ≤ n ∧ n ≤ 1048576)).map fun n =>
      "[default] DNSCache = " ++ toString n ++ " is out of range (1-1048576). Using default (1024)."
  | .logCapacity => (r.logCapacity.filter fun n => ¬(10 ≤ n ∧ n ≤ 10000)).map fun n =>
      "[default] LogCapacity = " ++ toString n ++ " is out of range (10-10000). Using default (100)."
  | .autostart => none
  | .mitm => none
  | .autoMin => none
  | .routeList => none

end RawSettings

/-! ## One reader -/

section ReadOr

variable {α β : Type} (parse : α → Option β) (default : β) (warn : α → String)

/-- What a given value is read as, and the default where it is not given or not taken. A value that
is not taken is warned about. -/
def readOr : Option α → β × List String
  | none => (default, [])
  | some value =>
    match parse value with
    | some result => (result, [])
    | none => (default, [warn value])

theorem readOr_fst (given : Option α) :
    (readOr parse default warn given).1 = (given.bind parse).getD default := by
  cases given with
  | none => rfl
  | some value => cases h : parse value <;> simp [readOr, h]

theorem readOr_snd (given : Option α) :
    (readOr parse default warn given).2 =
      ((given.filter fun value => (parse value).isNone).map warn).toList := by
  cases given with
  | none => rfl
  | some value => cases h : parse value <;> simp [readOr, Option.filter_some, h]

/-- A value that is taken where a condition holds is warned about where it does not. -/
theorem readOr_guard_snd (p : α → Prop) [DecidablePred p] (f : α → β) (given : Option α) :
    (readOr (fun value => if p value then some (f value) else none) default warn given).2 =
      ((given.filter fun value => ¬p value).map warn).toList := by
  have hguard : ∀ value, (if p value then some (f value) else none).isNone = decide (¬p value) := by
    intro value
    by_cases h : p value <;> simp [h]
  simp only [readOr_snd, hguard]

end ReadOr

namespace RawSettings

variable (r : RawSettings)

theorem readLogLevel_eq :
    r.readLogLevel = readOr LogLevel.read? .log
      (fun name => "[default] LogLevel = \"" ++ name ++ "\" is not recognised. " ++
        "Valid values: dbg, log, warn, err, off. Using default (log).") r.logLevel := by
  unfold readLogLevel readOr
  cases r.logLevel with
  | none => rfl
  | some name =>
    cases h : LogLevel.read? name <;>
      simp [h, Settings.initial, LogLevel.name, String.append_assoc]

theorem readMode_eq :
    r.readMode = readOr Mode.read? .iplist
      (fun name => "[default] ProxyType = \"" ++ name ++ "\" is not recognised. " ++
        "Valid values: iplist, global, none. Using default (iplist).") r.proxyType := by
  unfold readMode readOr
  cases r.proxyType with
  | none => rfl
  | some name =>
    cases h : Mode.read? name <;> simp [h, Settings.initial, Mode.name, String.append_assoc]

theorem readLang_eq :
    r.readLang = readOr
      (fun lang => if Text.lower lang ∈ ["en", "zh"] then some (Text.lower lang) else none) "en"
      (fun lang => "[default] Lang = \"" ++ lang ++ "\" is not supported. Using default (en).")
      r.lang := by
  unfold readLang readOr
  cases r.lang with
  | none => rfl
  | some lang =>
    by_cases h : Text.lower lang ∈ ["en", "zh"] <;>
      simp [h, Settings.languages, Settings.initial, String.append_assoc]

theorem readDnsCache_eq :
    r.readDnsCache = readOr
      (fun n => if 1 ≤ n ∧ n ≤ 1048576 then some (UInt32.ofNat n.toNat) else none) 1024
      (fun n => "[default] DNSCache = " ++ toString n ++
        " is out of range (1-1048576). Using default (1024).") r.dnsCache := by
  have hrange : Settings.range 1 Settings.maxDnsCacheSize = "1-1048576" := by decide
  have hdefault : Nat.repr 1024 = "1024" := by decide
  unfold readDnsCache readOr
  cases r.dnsCache with
  | none => rfl
  | some n =>
    by_cases h : 1 ≤ n ∧ n ≤ 1048576 <;>
      simp [h, Settings.isDnsCacheSize_iff, Settings.initial, hrange, hdefault, String.append_assoc]

theorem readLogCapacity_eq :
    r.readLogCapacity = readOr
      (fun n => if 10 ≤ n ∧ n ≤ 10000 then some n.toNat else none) 100
      (fun n => "[default] LogCapacity = " ++ toString n ++
        " is out of range (10-10000). Using default (100).") r.logCapacity := by
  have hrange : Settings.range Settings.minLogCapacity Settings.maxLogCapacity = "10-10000" := by
    decide
  have hdefault : Nat.repr 100 = "100" := by decide
  unfold readLogCapacity readOr
  cases r.logCapacity with
  | none => rfl
  | some n =>
    by_cases h : 10 ≤ n ∧ n ≤ 10000 <;>
      simp [h, Settings.isLogCapacity_iff, Settings.initial, hrange, hdefault, String.append_assoc]

/-- **Each setting is read from its own key.** -/
theorem gives_validate : r.Gives r.validate.1 where
  logLevel := by
    dsimp only [validate]
    rw [readLogLevel_eq, readOr_fst]
  mode := by
    dsimp only [validate]
    rw [readMode_eq, readOr_fst]
  lang := by
    dsimp only [validate]
    rw [readLang_eq, readOr_fst]
    cases r.lang with
    | none => rfl
    | some lang => simp [Option.filter_some]
  dnsCacheSize := by
    dsimp only [validate]
    rw [readDnsCache_eq, readOr_fst]
    cases r.dnsCache with
    | none => rfl
    | some n =>
      by_cases h : 1 ≤ n ∧ n ≤ 1048576
      · -- a number in range is one of 32 bits
        have hbits : (UInt32.ofNat n.toNat).toNat = n.toNat :=
          UInt32.toNat_ofNat_of_lt' (show n.toNat < 4294967296 by omega)
        have hsame : (n.toNat : Int) = n := Int.toNat_of_nonneg (by omega)
        simp [Option.filter_some, h, hbits, hsame]
      · simp [Option.filter_some, h]
  autostart := rfl
  mitm := rfl
  autoMinimize := rfl
  logCapacity := by
    dsimp only [validate]
    rw [readLogCapacity_eq, readOr_fst]
    cases r.logCapacity with
    | none => rfl
    | some n =>
      by_cases h : 10 ≤ n ∧ n ≤ 10000
      · have hsame : (n.toNat : Int) = n := Int.toNat_of_nonneg (by omega)
        simp [Option.filter_some, h, hsame]
      · simp [Option.filter_some, h]
  routeList := rfl

/-- A number that would be in range if its lowest 32 bits were all of it is replaced; the level beside
it is read. -/
example :
    ({ blank with logLevel := some " OFF ", dnsCache := some 4294967297 } : RawSettings).validate =
      ({ Settings.initial with logLevel := .off },
        ["[default] DNSCache = 4294967297 is out of range (1-1048576). Using default (1024)."]) := by
  decide

/-- **Each value that is not taken has one warning**, in the order of the keys. -/
theorem validate_snd : r.validate.2 = SettingKey.all.filterMap r.warning? := by
  have hlevel : r.readLogLevel.2 = (r.warning? .logLevel).toList := by
    rw [readLogLevel_eq, readOr_snd, warning?]
  have hmode : r.readMode.2 = (r.warning? .proxyType).toList := by
    rw [readMode_eq, readOr_snd, warning?]
  have hlang : r.readLang.2 = (r.warning? .lang).toList := by
    rw [readLang_eq, readOr_guard_snd, warning?]
  have hdns : r.readDnsCache.2 = (r.warning? .dnsCache).toList := by
    rw [readDnsCache_eq, readOr_guard_snd, warning?]
  have hlog : r.readLogCapacity.2 = (r.warning? .logCapacity).toList := by
    rw [readLogCapacity_eq, readOr_guard_snd, warning?]
  dsimp only [validate]
  rw [hlevel, hmode, hlang, hdns, hlog, List.filterMap_eq_flatMap_toList]
  simp [SettingKey.all, warning?]

/-- A file that gives the same under a key is warned about in the same words there. -/
theorem Agree.warning?_eq {r r' : RawSettings} {key : SettingKey} (h : r.Agree r' key) :
    r.warning? key = r'.warning? key := by
  cases key <;> first | rfl | exact congrArg (Option.map _ ∘ Option.filter _) h

/-- What files give the same for is the same in the settings that are read from them. -/
theorem Gives.agree {r r' : RawSettings} {s s' : Settings} {key : SettingKey} (h : r.Gives s)
    (h' : r'.Gives s') (hkey : r.Agree r' key) : s.Agree s' key := by
  cases key with
  | logLevel => exact h.logLevel.trans (hkey ▸ h'.logLevel.symm)
  | proxyType => exact h.mode.trans (hkey ▸ h'.mode.symm)
  | lang => exact h.lang.trans (hkey ▸ h'.lang.symm)
  | dnsCache =>
    have hsize : s.dnsCacheSize.toNat = s'.dnsCacheSize.toNat :=
      Int.ofNat_inj.1 (h.dnsCacheSize.trans (hkey ▸ h'.dnsCacheSize.symm))
    exact UInt32.toNat_inj.1 hsize
  | autostart => exact h.autostart.trans (hkey ▸ h'.autostart.symm)
  | mitm => exact h.mitm.trans (hkey ▸ h'.mitm.symm)
  | autoMin => exact h.autoMinimize.trans (hkey ▸ h'.autoMinimize.symm)
  | logCapacity => exact Int.ofNat_inj.1 (h.logCapacity.trans (hkey ▸ h'.logCapacity.symm))
  | routeList => exact h.routeList.trans (hkey ▸ h'.routeList.symm)

/-- **Settings are read key by key.** Whatever a file gives, each setting is what its own key says,
or the default; each value that a setting does not take has one warning, in the order of the keys,
and changes nothing about another key. The settings pass the check, so they can be written; what is
written for them is read as the same settings, without a warning. -/
theorem validate_key_by_key (r : RawSettings) :
    r.Gives r.validate.1 ∧
    r.validate.2 = SettingKey.all.filterMap r.warning? ∧
    (∀ r' key, r.Agree r' key →
      r.validate.1.Agree r'.validate.1 key ∧ r.warning? key = r'.warning? key) ∧
    r.validate.1.check = .ok () ∧
    ∃ v r', r.validate.1.toTable = .ok v ∧ ofTable? v = some r' ∧
      r'.validate = (r.validate.1, []) := by
  have hsettled := r.isSettled_validate
  have hcheck := hsettled.check_eq_ok
  refine ⟨r.gives_validate, r.validate_snd, fun r' key hkey => ?_, hcheck, ?_⟩
  · exact ⟨r.gives_validate.agree r'.gives_validate hkey, hkey.warning?_eq⟩
  · obtain ⟨v, hv⟩ := Settings.exists_toTable hcheck
    have hback := Settings.validate_raw hcheck
    rw [hsettled.tidied_eq_self] at hback
    exact ⟨v, r.validate.1.raw, hv, ofTable?_toTable hv, hback⟩

end RawSettings

end ProxyControl
