import ProxyControl.Proofs.Text.ByteOrder
import ProxyControl.Store.Backend

/-!
# Profiles as sections of a document

The sections of some profiles, put into a document in place of those that were there, are read back
as the same profiles in the order of their addresses. The names of profile sections start alike, so
in any document they stand together: every other name is before all of them or after all of them.

## Main results

* `Table.put_append`: a name is put between those that are before it and those that are after it
* `exists_putProfiles_eq`: the sections of profiles stand together
* `ProfileSection.ofTable?_toTable`: a section reads back from its table
* `profilesOfDocument_putProfiles`: profiles read back from a document
-/

set_option autoImplicit false

namespace ProxyControl

open Document

/-! ## Names -/

theorem isProfileSection_iff (name : String) :
    isProfileSection name = true ↔ profileSectionStart <+: name.toList := by
  rw [isProfileSection, List.isPrefixOf_iff_prefix]

theorem isProfileSection_sectionName (server : String) :
    isProfileSection (Profile.sectionName server) = true := by
  rw [isProfileSection_iff, Profile.sectionName, String.toList_ofList]
  exact List.prefix_append _ _

/-- What is before the start of a text is before the text. -/
theorem lt_append_of_lt {cs start : List Char} (rest : List Char) (h : cs < start) :
    cs < start ++ rest := by
  induction start generalizing cs with
  | nil => exact absurd h (List.not_lt_nil cs)
  | cons d start ih =>
    cases cs with
    | nil => exact List.nil_lt_cons d _
    | cons c cs =>
      rw [List.cons_lt_cons_iff] at h
      rw [List.cons_append, List.cons_lt_cons_iff]
      exact h.imp_right fun h => ⟨h.1, ih h.2⟩

/-- What is not before the start of a text, and does not start so, is after the text. -/
theorem append_lt_of_not_prefix {start cs : List Char} (rest : List Char) (hlt : ¬cs < start)
    (hp : ¬start <+: cs) : start ++ rest < cs := by
  induction start generalizing cs with
  | nil => exact absurd (List.nil_prefix) hp
  | cons d start ih =>
    cases cs with
    | nil => exact absurd (List.nil_lt_cons d start) hlt
    | cons c cs =>
      rw [List.cons_lt_cons_iff, not_or, not_and] at hlt
      rw [List.cons_prefix_cons, not_and] at hp
      rw [List.cons_append, List.cons_lt_cons_iff]
      rcases Nat.lt_trichotomy d.toNat c.toNat with h | h | h
      · exact .inl (Char.lt_def.2 h)
      · obtain rfl := Char.toNat_inj.1 h
        exact .inr ⟨rfl, ih (hlt.2 rfl) (hp rfl)⟩
      · exact absurd (Char.lt_def.2 h) hlt.1

theorem sectionName_lt_iff (a b : String) :
    Profile.sectionName a < Profile.sectionName b ↔ a < b := by
  rw [String.lt_iff, String.lt_iff, Profile.sectionName, Profile.sectionName, String.toList_ofList,
    String.toList_ofList, Text.append_lt_append_iff]

theorem sectionName_inj {a b : String} (h : Profile.sectionName a = Profile.sectionName b) :
    a = b := by
  have hl := congrArg String.toList h
  rw [Profile.sectionName, Profile.sectionName, String.toList_ofList, String.toList_ofList] at hl
  exact String.toList_inj.1 (List.append_cancel_left hl)

/-- A name that no profile section has is before all names of profile sections, or after all of
them. -/
theorem lt_sectionName_or {name : String} (h : isProfileSection name = false) :
    (∀ server, name < Profile.sectionName server) ∨
      ∀ server, Profile.sectionName server < name := by
  have hp : ¬profileSectionStart <+: name.toList := by simp [← isProfileSection_iff, h]
  by_cases hlt : name.toList < profileSectionStart
  · left
    intro server
    rw [String.lt_iff, Profile.sectionName, String.toList_ofList]
    exact lt_append_of_lt _ hlt
  · right
    intro server
    rw [String.lt_iff, Profile.sectionName, String.toList_ofList]
    exact append_lt_of_not_prefix _ hlt hp

/-! ## Sections in a document -/

/-- The entry of a profile in a document. -/
def Profile.entry (p : Profile) : String × Value :=
  (Profile.sectionName p.serverAddr, .table p.toSection.toTable)

/-- A name is put between the names that are before it and those that are after it. -/
theorem Document.Table.put_append {low middle high : Table} {name : String} (value : Value)
    (hl : ∀ e ∈ low, e.1 < name) (hh : ∀ e ∈ high.head?, name < e.1) :
    Table.put (low ++ middle ++ high) name value = low ++ Table.put middle name value ++ high := by
  induction low with
  | nil =>
    rw [List.nil_append, List.nil_append]
    induction middle with
    | nil =>
      cases high with
      | nil => rfl
      | cons e high =>
        obtain ⟨k, w⟩ := e
        have he : name < k := hh (k, w) rfl
        have hne : name ≠ k := fun h => String.lt_irrefl _ (h ▸ he)
        simp only [List.nil_append, put, if_neg hne, if_pos he]
        rfl
    | cons e middle ih =>
      obtain ⟨k, w⟩ := e
      rw [List.cons_append, put, put]
      split
      · rfl
      · split
        · rfl
        · rw [ih, List.cons_append]
  | cons e low ih =>
    obtain ⟨k, w⟩ := e
    have he : k < name := hl (k, w) List.mem_cons_self
    have hne : name ≠ k := fun h => String.lt_irrefl _ (h ▸ he)
    rw [List.cons_append, List.cons_append, put, if_neg hne, if_neg (String.lt_asymm he),
      ih fun e he => hl e (List.mem_cons_of_mem _ he)]
    rfl

/-- The sections of profiles put between other entries. -/
theorem foldl_put_append {low high : Table} (hl : ∀ e ∈ low, ∀ s, e.1 < Profile.sectionName s)
    (hh : ∀ e ∈ high.head?, ∀ s, Profile.sectionName s < e.1) (profiles : List Profile)
    (middle : Table) :
    profiles.foldl (fun t p => t.put p.entry.1 p.entry.2) (low ++ middle ++ high) =
      low ++ profiles.foldl (fun t p => t.put p.entry.1 p.entry.2) middle ++ high := by
  induction profiles generalizing middle with
  | nil => rfl
  | cons p profiles ih =>
    have hput : Table.put (low ++ middle ++ high) p.entry.1 p.entry.2 =
        low ++ middle.put p.entry.1 p.entry.2 ++ high :=
      Table.put_append p.entry.2 (fun e he => hl e he p.serverAddr)
        fun e he => hh e he p.serverAddr
    rw [List.foldl_cons, List.foldl_cons, hput, ih]

/-- **The sections of profiles stand together** in a document, between entries that are no sections
of profiles. -/
theorem exists_putProfiles_eq (t : Table) (profiles : List Profile) :
    ∃ low high : Table, (∀ e ∈ low, isProfileSection e.1 = false) ∧
      (∀ e ∈ high, isProfileSection e.1 = false) ∧
      putProfiles t profiles = low ++ putProfiles [] profiles ++ high := by
  let kept := t.keep fun name => !isProfileSection name
  let isLow (e : String × Value) : Bool := e.1 < Profile.sectionName ""
  have hkept : ∀ e ∈ kept, isProfileSection e.1 = false := fun e he => by
    simpa using (List.mem_filter.1 he).2
  -- the lower ones of the entries that are kept are before all sections of profiles ...
  have hlow : ∀ e ∈ kept.takeWhile isLow, ∀ s, e.1 < Profile.sectionName s := by
    intro e he
    have hlt : e.1 < Profile.sectionName "" := of_decide_eq_true
      (List.all_eq_true.1 (List.all_takeWhile ..) e he)
    rcases lt_sectionName_or (hkept e ((List.takeWhile_sublist _).mem he)) with h | h
    · exact h
    · exact absurd (h "") (String.lt_asymm hlt)
  -- ... and the first of the others is after all of them, as its name starts otherwise
  have hhigh : ∀ e ∈ (kept.dropWhile isLow).head?, ∀ s, Profile.sectionName s < e.1 := by
    intro e he
    have hmem := List.mem_of_mem_head? he
    have hnlt := List.head?_dropWhile_not isLow kept
    rw [Option.mem_def.1 he] at hnlt
    have hf : isLow e = false := by simpa using hnlt
    rcases lt_sectionName_or (hkept e ((List.dropWhile_sublist _).mem hmem)) with h | h
    · exact absurd (h "") (of_decide_eq_false hf)
    · exact h
  refine ⟨kept.takeWhile isLow, kept.dropWhile isLow,
    fun e he => hkept e ((List.takeWhile_sublist _).mem he),
    fun e he => hkept e ((List.dropWhile_sublist _).mem he), ?_⟩
  have h := foldl_put_append hlow hhigh profiles []
  rw [List.append_nil, List.takeWhile_append_dropWhile] at h
  exact h

/-! ## Sections read back -/

/-- A section reads back from its table. -/
theorem ProfileSection.ofTable?_toTable (s : ProfileSection) :
    ProfileSection.ofTable? s.toTable = some s := by
  have hudp : (s.udp.toNat : Int) ≤ 65535 := by
    have := s.udp.toNat_lt
    omega
  have htcp : (s.udpOverTcp.toNat : Int) ≤ 4294967295 := by
    have := s.udpOverTcp.toNat_lt
    omega
  simp [ofTable?, Table.field?, toTable, Table.ofEntries, Table.value?_put, Value.text?,
    Value.flag?, Value.upTo?, hudp, htcp]

/-- A profile reads back from its section. -/
theorem Profile.ofSection?_toSection {p : Profile} (h : p.serverAddr ≠ "") (name : String) :
    Profile.ofSection? name p.toSection = some p := by
  simp [ofSection?, toSection, h]

/-- A profile that is read has a server. -/
theorem Profile.serverAddr_ne_of_ofSection? {name : String} {s : ProfileSection} {p : Profile}
    (h : Profile.ofSection? name s = some p) : p.serverAddr ≠ "" := by
  unfold ofSection? at h
  simp only at h
  split at h
  · cases h
  · split at h
    · cases h
    · next hs => cases h; exact hs

theorem serverAddr_ne_of_mem_profilesOfDocument {t : Table} {p : Profile}
    (h : p ∈ profilesOfDocument t) : p.serverAddr ≠ "" := by
  obtain ⟨e, -, he⟩ := List.mem_filterMap.1 h
  obtain ⟨s, -, hs⟩ := Option.bind_eq_some_iff.1 he
  exact Profile.serverAddr_ne_of_ofSection? hs

theorem profilesOfDocument_append (t u : Table) :
    profilesOfDocument (t ++ u) = profilesOfDocument t ++ profilesOfDocument u := by
  simp [profilesOfDocument]

theorem profilesOfDocument_of_not_isProfileSection {t : Table}
    (h : ∀ e ∈ t, isProfileSection e.1 = false) : profilesOfDocument t = [] := by
  have hf : t.filter (fun e => isProfileSection e.1) = [] := by
    simpa [List.filter_eq_nil_iff] using h
  rw [profilesOfDocument, hf, List.filterMap_nil]

/-- The entry of a profile is read as the profile. -/
theorem profilesOfDocument_entry {p : Profile} (h : p.serverAddr ≠ "") :
    profilesOfDocument [p.entry] = [p] := by
  simp [profilesOfDocument, Profile.entry, isProfileSection_sectionName, ProfileSection.ofValue?,
    ProfileSection.ofTable?_toTable, Profile.ofSection?_toSection h]

theorem profilesOfDocument_map_entry {profiles : List Profile}
    (h : ∀ p ∈ profiles, p.serverAddr ≠ "") :
    profilesOfDocument (profiles.map Profile.entry) = profiles := by
  induction profiles with
  | nil => rfl
  | cons p profiles ih =>
    rw [List.map_cons, ← List.singleton_append, profilesOfDocument_append,
      profilesOfDocument_entry (h p List.mem_cons_self),
      ih fun q hq => h q (List.mem_cons_of_mem p hq)]
    rfl

/-- Writing a name that a table does not have adds an entry. -/
theorem Document.Table.perm_put {t : Table} {name : String} (value : Value)
    (h : ∀ e ∈ t, e.1 ≠ name) : (t.put name value).Perm ((name, value) :: t) := by
  induction t with
  | nil => exact .refl _
  | cons e t ih =>
    obtain ⟨k, w⟩ := e
    have hk : k ≠ name := h (k, w) List.mem_cons_self
    rw [put, if_neg (Ne.symm hk)]
    split
    · exact .refl _
    · have hrest := ih fun e he => h e (List.mem_cons_of_mem _ he)
      exact (hrest.cons (k, w)).trans (.swap ..)

/-- The sections of profiles for different servers are added to a table that has none of them. -/
theorem perm_foldl_put {profiles : List Profile} (hd : (profiles.map (·.serverAddr)).Nodup)
    {t : Table} (ht : ∀ e ∈ t, ∀ p ∈ profiles, e.1 ≠ p.entry.1) :
    (profiles.foldl (fun t p => t.put p.entry.1 p.entry.2) t).Perm
      (profiles.map Profile.entry ++ t) := by
  induction profiles generalizing t with
  | nil => exact .refl _
  | cons p profiles ih =>
    obtain ⟨hp, hd⟩ := List.nodup_cons.1 hd
    have hput := Table.perm_put p.entry.2 fun e he => ht e he p List.mem_cons_self
    have hfresh : ∀ e ∈ t.put p.entry.1 p.entry.2, ∀ q ∈ profiles, e.1 ≠ q.entry.1 := by
      intro e he q hq
      rcases Table.mem_put he with rfl | he
      · intro h
        have hs := sectionName_inj h
        exact hp (List.mem_map.2 ⟨q, hq, hs.symm⟩)
      · exact ht e he q (List.mem_cons_of_mem p hq)
    rw [List.foldl_cons, List.map_cons, List.cons_append]
    exact (ih hd hfresh).trans ((hput.append_left _).trans List.perm_middle)

/-- In an empty document the sections are those of the profiles, in some order. -/
theorem perm_putProfiles_nil {profiles : List Profile}
    (hd : (profiles.map (·.serverAddr)).Nodup) :
    (putProfiles [] profiles).Perm (profiles.map Profile.entry) := by
  have h := perm_foldl_put hd (t := []) (by simp)
  rwa [List.append_nil] at h

theorem sorted_putProfiles_nil (profiles : List Profile) : (putProfiles [] profiles).Sorted := by
  have h (t : Table) (ht : t.Sorted) :
      (profiles.foldl (fun t p => t.put p.entry.1 p.entry.2) t).Sorted := by
    induction profiles generalizing t with
    | nil => exact ht
    | cons p profiles ih => exact ih _ (Table.sorted_put _ _ ht)
  exact h [] Table.sorted_nil

/-- Entries of profiles are those of the profiles that they are read as. -/
theorem map_entry_profilesOfDocument {t : Table}
    (h : ∀ e ∈ t, ∃ p : Profile, p.serverAddr ≠ "" ∧ e = p.entry) :
    (profilesOfDocument t).map Profile.entry = t := by
  induction t with
  | nil => rfl
  | cons e t ih =>
    obtain ⟨p, hp, rfl⟩ := h e List.mem_cons_self
    rw [← List.singleton_append, profilesOfDocument_append, profilesOfDocument_entry hp,
      List.map_append, ih fun e he => h e (List.mem_cons_of_mem _ he)]
    rfl

/-- **Profiles read back from a document.** Put into any document, profiles for different servers
are read back from it, all of them and no others, in the order of their addresses. -/
theorem profilesOfDocument_putProfiles (t : Table) {profiles : List Profile}
    (hd : (profiles.map (·.serverAddr)).Nodup) (hn : ∀ p ∈ profiles, p.serverAddr ≠ "") :
    (profilesOfDocument (putProfiles t profiles)).Perm profiles ∧
      (profilesOfDocument (putProfiles t profiles)).Pairwise
        fun p q => p.serverAddr < q.serverAddr := by
  obtain ⟨low, high, hl, hh, ht⟩ := exists_putProfiles_eq t profiles
  rw [ht, profilesOfDocument_append, profilesOfDocument_append,
    profilesOfDocument_of_not_isProfileSection hl, profilesOfDocument_of_not_isProfileSection hh,
    List.nil_append, List.append_nil]
  have hperm := perm_putProfiles_nil hd
  constructor
  · have h := (hperm.filter fun e => isProfileSection e.1).filterMap fun e =>
      (ProfileSection.ofValue? e.2).bind (Profile.ofSection? e.1)
    exact h.trans (.of_eq (profilesOfDocument_map_entry hn))
  · have hmem : ∀ e ∈ putProfiles [] profiles, ∃ p : Profile, p.serverAddr ≠ "" ∧ e = p.entry := by
      intro e he
      obtain ⟨p, hp, rfl⟩ := List.mem_map.1 (hperm.mem_iff.1 he)
      exact ⟨p, hn p hp, rfl⟩
    have hs := sorted_putProfiles_nil profiles
    rw [← map_entry_profilesOfDocument hmem, Table.Sorted, List.pairwise_map] at hs
    exact hs.imp fun h => (sectionName_lt_iff _ _).1 h

end ProxyControl
