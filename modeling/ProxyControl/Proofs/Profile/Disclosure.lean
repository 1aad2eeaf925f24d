import ProxyControl.Command.Profiles
import ProxyControl.Engine.Params
import Mathlib.Data.List.Nodup

/-!
# What is told of a profile

The key and the password of a profile are secrets. Two profiles that differ in nothing else are told
apart by no listing and by no view of their start parameters. The same holds of the errors with
which they are rejected, and of all messages that these are wrapped in, as long as the field that is
named is none of the two secrets. An error that names one of them echoes its value: the messages
then tell the two profiles apart whenever the values have different written forms.

## Main definitions

* `Profile.veiled`: a profile without its secrets
* `ProfileError.outline`: which rule was broken, and by which field
* `ProfileError.NamesSecret`: an error about the value of a secret
* `rejectionTexts`: the texts in which a rejection is told

## Main results

* `Profile.validate_cases`: what a profile is rejected for
* `Profile.told_veiled`: what is told of two profiles that differ in their secrets
* `Profile.told_key`: two keys that an error tells apart
-/

set_option autoImplicit false

namespace ProxyControl

open Text

/-- The names of the fields that are secrets. -/
def secretFields : List String := ["key", "auth pass"]

namespace ProfileError

/-- An error without the value that it echoes: which rule was broken, and by which field. -/
def outline : ProfileError → ProfileError
  | .missingField field => .missingField field
  | .invalidField field _ _ => .invalidField field "" ""
  | .notFound _ => .notFound ""

/-- An error about the value of a secret. -/
def NamesSecret : ProfileError → Prop
  | .invalidField field _ _ => field ∈ secretFields
  | .missingField _ | .notFound _ => False

/-- The message of an error tells two values of a field apart. -/
theorem message_eq_iff {field v w reason : String} :
    (invalidField field v reason).message = (invalidField field w reason).message ↔ v = w := by
  unfold message
  rw [String.append_left_inj, String.append_left_inj, String.append_right_inj]

end ProfileError

/-- The texts in which the rejection of a profile is told: the message of the error, those that it
is wrapped in, and the notice of an import. -/
def rejectionTexts : List (Profile → ProfileError → String) :=
  [fun _ e => e.message, fun _ e => (SessionError.invalidProfile e).message,
    fun _ e => (Error.profile e).message, fun _ e => (Error.session (.invalidProfile e)).message,
    skipNotice]

/-- All texts tell two errors apart as the message does. -/
theorem rejectionTexts_eq_iff {p q : Profile} (h : p.serverAddr = q.serverAddr)
    {text : Profile → ProfileError → String} (ht : text ∈ rejectionTexts) (e f : ProfileError) :
    text p e = text q f ↔ e.message = f.message := by
  have hsession : (SessionError.invalidProfile e).message =
      (SessionError.invalidProfile f).message ↔ e.message = f.message := String.append_right_inj _
  simp only [rejectionTexts, List.mem_cons, List.not_mem_nil, or_false] at ht
  obtain rfl | rfl | rfl | rfl | rfl := ht
  · exact .rfl
  · exact hsession
  · exact String.append_right_inj _
  · exact (String.append_right_inj _).trans hsession
  · rw [skipNotice, skipNotice, h]
    exact String.append_right_inj _

namespace Profile

/-- The profile without its secrets; it still shows whether there is a password. -/
def veiled (p : Profile) : Profile :=
  { p with key := "", authPass := if p.authPass = "" then "" else "*" }

variable {p q : Profile}

/-! ## Fields -/

/-- The fields that are no secrets, with their names in messages. -/
def openFields (p : Profile) : List (String × String) :=
  p.textFields.filter fun f => f.1 ∉ secretFields

theorem openFields_eq (p : Profile) : p.openFields =
    [("server address", p.serverAddr), ("local address", p.localAddr), ("auth user", p.authUser),
      ("domain", p.domain)] := by
  simp [openFields, textFields, secretFields]

/-- Each field has a name of its own. -/
theorem nodup_textFields (p : Profile) : (p.textFields.map (·.1)).Nodup := by
  simp [textFields]

theorem eq_of_mem_textFields {field v w : String} (hv : (field, v) ∈ p.textFields)
    (hw : (field, w) ∈ p.textFields) : v = w := by
  have h := List.inj_on_of_nodup_map p.nodup_textFields hv hw rfl
  exact (Prod.mk.inj h).2

/-- A field that is no secret is the same in all profiles that differ in their secrets. -/
theorem mem_textFields_of_veiled (h : p.veiled = q.veiled) {field v : String}
    (hs : field ∉ secretFields) (hv : (field, v) ∈ p.textFields) : (field, v) ∈ q.textFields := by
  have hopen : p.openFields = q.openFields := by
    rw [openFields_eq, openFields_eq]
    simp only [veiled, mk.injEq] at h
    simp [h]
  have hmem : (field, v) ∈ p.openFields := List.mem_filter.2 ⟨hv, decide_eq_true hs⟩
  rw [hopen] at hmem
  exact (List.mem_filter.1 hmem).1

/-! ## Rejections -/

/-- What makes a profile be rejected for the value of a field: a character that may not stand there,
or a server or a user name that is not well formed. -/
inductive Rejected (p : Profile) : String → String → String → Prop
  | forbidden {field v : String} (mem : (field, v) ∈ p.textFields)
    (has : v.toList.any isForbidden = true) :
    Rejected p field (escaped v) "contains a control character"
  | server (clean : ∀ f ∈ p.textFields, f.2.toList.any isForbidden = false) :
    Rejected p "server address" p.serverAddr "expected host:port"
  | user (clean : ∀ f ∈ p.textFields, f.2.toList.any isForbidden = false) :
    Rejected p "auth user" p.authUser "must not contain ':'"

/-- **What a profile is rejected for**: a field that is blank, or the value of one. -/
theorem validate_cases {e : ProfileError} (h : p.validate = .error e) :
    (∃ field, e = .missingField field) ∨
      ∃ field value reason, e = .invalidField field value reason ∧
        p.Rejected field value reason := by
  unfold validate at h
  split at h
  · cases h
    exact .inl ⟨_, rfl⟩
  · split at h
    · next field v hf =>
      cases h
      have has := List.find?_some hf
      exact .inr ⟨_, _, _, rfl, .forbidden (List.mem_of_find?_eq_some hf) has⟩
    · next hf =>
      have hclean : ∀ f ∈ p.textFields, f.2.toList.any isForbidden = false := by
        intro f hm
        simpa using List.find?_eq_none.1 hf f hm
      split at h
      · cases h
        exact .inr ⟨_, _, _, rfl, .server hclean⟩
      · split at h
        · cases h
          exact .inr ⟨_, _, _, rfl, .user hclean⟩
        · cases h

namespace Rejected

/-- The value of a secret is rejected only for a character that may not stand there. -/
theorem eq_of_secret {field value reason : String} (h : p.Rejected field value reason)
    (hs : field ∈ secretFields) {v : String} (hv : (field, v) ∈ p.textFields) :
    value = escaped v ∧ reason = "contains a control character" := by
  cases h with
  | forbidden mem has => exact ⟨by rw [eq_of_mem_textFields mem hv], rfl⟩
  | server => simp [secretFields] at hs
  | user => simp [secretFields] at hs

/-- A field with a character that may not stand there is not rejected for another reason. -/
theorem forbidden_iff {field value reason v : String} (h : p.Rejected field value reason)
    (hv : (field, v) ∈ p.textFields) (has : v.toList.any isForbidden = true) :
    value = escaped v ∧ reason = "contains a control character" := by
  cases h with
  | forbidden mem has' => exact ⟨by rw [eq_of_mem_textFields mem hv], rfl⟩
  | server clean => cases has.symm.trans (clean _ hv)
  | user clean => cases has.symm.trans (clean _ hv)

/-- Of two profiles that differ in their secrets, an error about another field tells the same. -/
theorem eq_of_veiled (h : p.veiled = q.veiled) {field v w r s : String}
    (hp : p.Rejected field v r) (hq : q.Rejected field w s) (hs : field ∉ secretFields) :
    v = w ∧ r = s := by
  have hserver : p.serverAddr = q.serverAddr := congrArg (·.serverAddr) h
  have huser : p.authUser = q.authUser := congrArg (·.authUser) h
  cases hp with
  | forbidden mem has =>
    obtain ⟨rfl, rfl⟩ := hq.forbidden_iff (mem_textFields_of_veiled h hs mem) has
    exact ⟨rfl, rfl⟩
  | server clean =>
    generalize hf : "server address" = field at hq hs
    cases hq with
    | forbidden mem has =>
      have hmem := mem_textFields_of_veiled h.symm hs mem
      cases has.symm.trans (clean _ hmem)
    | server => exact ⟨hserver, rfl⟩
    | user => simp at hf
  | user clean =>
    generalize hf : "auth user" = field at hq hs
    cases hq with
    | forbidden mem has =>
      have hmem := mem_textFields_of_veiled h.symm hs mem
      cases has.symm.trans (clean _ hmem)
    | server => simp at hf
    | user => exact ⟨huser, rfl⟩

end Rejected

/-- Two profiles that differ in their secrets, and are rejected by the same rule for the same field,
are rejected with the same error, unless it is about the value of a secret. -/
theorem error_eq_of_veiled (h : p.veiled = q.veiled) {e f : ProfileError}
    (he : p.validate = .error e) (hf : q.validate = .error f) (ho : e.outline = f.outline)
    (hs : ¬e.NamesSecret) : e = f := by
  rcases validate_cases he with ⟨field, rfl⟩ | ⟨field, v, r, rfl, hp⟩ <;>
    rcases validate_cases hf with ⟨field', rfl⟩ | ⟨field', w, s, rfl, hq⟩
  · exact ho
  · cases ho
  · cases ho
  · have hfield : field = field' := (ProfileError.invalidField.inj ho).1
    subst hfield
    obtain ⟨rfl, rfl⟩ := hp.eq_of_veiled h hq hs
    rfl

/-- An error about a secret echoes it. -/
theorem error_of_outline {e : ProfileError} (he : p.validate = .error e) {field : String}
    (hs : field ∈ secretFields) (ho : e.outline = .invalidField field "" "") {v : String}
    (hv : (field, v) ∈ p.textFields) :
    e = .invalidField field (escaped v) "contains a control character" := by
  rcases validate_cases he with ⟨field', rfl⟩ | ⟨field', v', r, rfl, hp⟩
  · cases ho
  · obtain rfl : field' = field := (ProfileError.invalidField.inj ho).1
    obtain ⟨rfl, rfl⟩ := hp.eq_of_secret hs hv
    rfl

/-! ## Views and listings -/

theorem authPass_eq_empty_iff (h : p.veiled = q.veiled) : p.authPass = "" ↔ q.authPass = "" := by
  have hiff (p : Profile) : p.veiled.authPass = "" ↔ p.authPass = "" := by
    by_cases hp : p.authPass = "" <;> simp [veiled, hp]
  rw [← hiff p, h, hiff q]

theorem auth_eq_empty_iff (p : Profile) : p.auth = "" ↔ p.authUser = "" ∨ p.authPass = "" := by
  unfold auth
  split
  · next hp => simp [hp]
  · next hp => simpa using hp

/-- The start parameters show of the secrets only whether they are given. -/
theorem inspect_eq_of_veiled (h : p.veiled = q.veiled) (level : LogLevel) (size : UInt32)
    (routes : String) : (StartParams.ofProfile p level size routes).inspect =
      (StartParams.ofProfile q level size routes).inspect := by
  have hauth : (p.auth ≠ "") = (q.auth ≠ "") := by
    have huser : p.authUser = q.authUser := congrArg (·.authUser) h
    rw [ne_eq, ne_eq, auth_eq_empty_iff, auth_eq_empty_iff, authPass_eq_empty_iff h, huser]
  simp only [veiled, mk.injEq] at h
  obtain ⟨hserver, hlocal, -, -, -, hpartial, hport, hfactor, hdomain⟩ := h
  unfold StartParams.inspect StartParams.ofProfile
  simp only [hserver, hlocal, hpartial, hport, hfactor, hdomain, hauth]

/-- Listings are made of profiles without their secrets. -/
theorem summaries_eq_of_veiled {ps qs : List Profile} (h : ps.map veiled = qs.map veiled) :
    summaries ps = summaries qs := by
  have hof (l : List Profile) : l.map ProfileSummary.ofProfile =
      (l.map veiled).map ProfileSummary.ofProfile := by
    rw [List.map_map]
    rfl
  rw [summaries, summaries, hof ps, hof qs, h]

/-- The listing of a store that can be opened. -/
theorem listProfiles_eq {w : Workplace} {d d' : Disk} {store : ProfileStore Disk}
    (h : ProfileStore.openOn w.backend d = (.ok store, d')) (asExport : Bool) :
    (listProfiles asExport w d).1 =
      .success (if asExport then .line (exportText (summaries store.profiles))
        else .lines (tableLines (summaries store.profiles))) := by
  rw [listProfiles, withProfiles, h]

/-! ## What is told -/

/-- **What is told of two profiles that differ in their secrets.** If they are rejected by the same
rule for the same field, and that is no secret, then all texts that tell of it are the same. If it
is the key or the password, they are the same only where the values have the same written form. The
views of the start parameters are the same, and so are the listings of two stores that differ only
in such profiles. -/
theorem told_veiled (p q : Profile) (w₁ w₂ : Workplace) (d₁ d₂ d₁' d₂' : Disk)
    (store other : ProfileStore Disk) :
    (p.veiled = q.veiled →
      (∀ e f, p.validate = .error e → q.validate = .error f → e.outline = f.outline →
        ∀ text ∈ rejectionTexts, (¬e.NamesSecret → text p e = text q f) ∧
          ∀ field v w, field ∈ secretFields → e.outline = .invalidField field "" "" →
            (field, v) ∈ p.textFields → (field, w) ∈ q.textFields →
            (text p e = text q f ↔ escaped v = escaped w)) ∧
      ∀ level size routes, (StartParams.ofProfile p level size routes).inspect =
        (StartParams.ofProfile q level size routes).inspect) ∧
    (ProfileStore.openOn w₁.backend d₁ = (.ok store, d₁') →
      ProfileStore.openOn w₂.backend d₂ = (.ok other, d₂') →
      store.profiles.map veiled = other.profiles.map veiled →
      ∀ asExport, (listProfiles asExport w₁ d₁).1 = (listProfiles asExport w₂ d₂).1) := by
  refine ⟨fun h => ⟨fun e f he hf ho text ht => ?_, inspect_eq_of_veiled h⟩, ?_⟩
  · have hserver : p.serverAddr = q.serverAddr := congrArg (·.serverAddr) h
    rw [rejectionTexts_eq_iff hserver ht]
    constructor
    · intro hs
      rw [error_eq_of_veiled h he hf ho hs]
    · intro field v w hs hfield hv hw
      rw [error_of_outline he hs hfield hv, error_of_outline hf hs (ho.symm.trans hfield) hw]
      exact ProfileError.message_eq_iff
  · intro h₁ h₂ h asExport
    rw [listProfiles_eq h₁, listProfiles_eq h₂, summaries_eq_of_veiled h]

/-- A file with one profile, whose server has no port. -/
def secretTree (key password : String) : FileTree :=
  .directory [("flightdeck.toml", .file ("[server-h]\nAddress = \"h\"\nKey = \"" ++ key ++
    "\"\nPassword = \"" ++ password ++ "\"\n").toUTF8)]

def secretProfile (key password : String) : Profile :=
  { new "h" with key := key, authPass := password }

theorem openOn_secretTree {w : Workplace} {d : Disk} {profiles : List Profile}
    (h : (ProfileStore.openOn w.backend d).1.toOption.map (·.profiles) = some profiles) :
    ∃ store d', ProfileStore.openOn w.backend d = (.ok store, d') ∧ store.profiles = profiles := by
  rcases hopen : ProfileStore.openOn w.backend d with ⟨e | store, d'⟩ <;> rw [hopen] at h
  · cases h
  · exact ⟨store, d', rfl, Option.some.inj h⟩

/-- Of two profiles that differ in key and password, whose server has no port, all texts are the
same, and so are the listings of two files that have one each. -/
theorem told_veiled_secretTree :
    let w : Workplace := ⟨[], .inDir "."⟩
    let p := secretProfile "a" "b"
    let q := secretProfile "c" "d"
    let e : ProfileError := .invalidField "server address" "h" "expected host:port"
    p.validate = .error e ∧ q.validate = .error e ∧ (∀ text ∈ rejectionTexts, text p e = text q e) ∧
      (StartParams.ofProfile p .log 0 "").inspect = (StartParams.ofProfile q .log 0 "").inspect ∧
      (∃ store d', ProfileStore.openOn w.backend (.ofTree (secretTree "a" "b")) = (.ok store, d') ∧
        store.profiles = [p]) ∧
      ∀ asExport, (listProfiles asExport w (.ofTree (secretTree "a" "b"))).1 =
        (listProfiles asExport w (.ofTree (secretTree "c" "d"))).1 := by
  intro w p q e
  have hp : (ProfileStore.openOn w.backend (.ofTree (secretTree "a" "b"))).1.toOption.map
      (·.profiles) = some [p] := by decide +kernel
  have hq : (ProfileStore.openOn w.backend (.ofTree (secretTree "c" "d"))).1.toOption.map
      (·.profiles) = some [q] := by decide +kernel
  obtain ⟨store, d₁, h₁, hstore⟩ := openOn_secretTree hp
  obtain ⟨other, d₂, h₂, hother⟩ := openOn_secretTree hq
  have hveiled : p.veiled = q.veiled := by decide
  have hvp : p.validate = .error e := by decide
  have hvq : q.validate = .error e := by decide
  obtain ⟨htold, hlisted⟩ := told_veiled p q w w (.ofTree (secretTree "a" "b"))
    (.ofTree (secretTree "c" "d")) d₁ d₂ store other
  obtain ⟨htexts, hviews⟩ := htold hveiled
  have hopen : ¬e.NamesSecret := by simp [e, ProfileError.NamesSecret, secretFields]
  refine ⟨hvp, hvq, fun text ht => (htexts e e hvp hvq rfl text ht).1 hopen, hviews .log 0 "",
    ⟨store, d₁, h₁, hstore⟩, hlisted h₁ h₂ ?_⟩
  rw [hstore, hother]
  exact congrArg (· :: []) hveiled

/-- **Two keys that an error tells apart.** The profiles are rejected by the same rule for the same
field, and the import says of each one what its key is. -/
theorem told_key :
    let p := { new "h:1" with key := "a\n" }
    let q := { new "h:1" with key := "b\n" }
    let reason := "contains a control character"
    p.veiled = q.veiled ∧ p.validate = .error (.invalidField "key" "a\\n" reason) ∧
      q.validate = .error (.invalidField "key" "b\\n" reason) ∧
      skipNotice p (.invalidField "key" "a\\n" reason) ≠
        skipNotice q (.invalidField "key" "b\\n" reason) := by
  decide +kernel

end Profile

end ProxyControl
