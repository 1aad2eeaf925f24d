import ProxyControl.Command.Profiles
import ProxyControl.Proofs.Store.FlatFile
import ProxyControl.Proofs.Store.InStep
import Mathlib.Data.List.Dedup
import Mathlib.Data.List.Perm.Subperm

/-!
# Imported profiles

An import saves the profiles of a flat file that can be used, one after the other, and stops at the
first that cannot be saved. Whatever it stops at, those before it are saved and no others are. The
flat file is read before anything is saved, so the import takes what the file held at its start,
also where the saves replace that very file; but then the next import finds something else in it.

## Main definitions

* `usable`: the profiles that can be used
* `importSource`: where an import takes its profiles from
* `ImportsNothing`: an import that changes nothing

## Main results

* `saveAll_cases`: an import saves the usable profiles, all of them or those before one that fails
* `imported`: what an import does
* `imported_first`: what is imported for a server
-/

set_option autoImplicit false

namespace ProxyControl

open Document

/-! ## Profiles that can be used -/

/-- The profiles that can be used. -/
def usable (profiles : List Profile) : List Profile := profiles.filter fun p => p.validate.isOk

/-- What is said about the profiles that cannot be used. -/
def skipNotices (profiles : List Profile) : List String :=
  profiles.filterMap fun p =>
    match p.validate with
    | .error e => some (skipNotice p e)
    | .ok () => none

theorem usable_cons_of_error {p : Profile} {e : ProfileError} (h : p.validate = .error e)
    (profiles : List Profile) :
    usable (p :: profiles) = usable profiles ∧
      skipNotices (p :: profiles) = skipNotice p e :: skipNotices profiles := by
  simp [usable, skipNotices, h, Except.isOk, Except.toBool]

theorem usable_cons_of_ok {p : Profile} (h : p.validate = .ok ()) (profiles : List Profile) :
    usable (p :: profiles) = p :: usable profiles ∧
      skipNotices (p :: profiles) = skipNotices profiles := by
  simp [usable, skipNotices, h, Except.isOk, Except.toBool]

theorem validate_of_mem_usable {p : Profile} {profiles : List Profile} (h : p ∈ usable profiles) :
    p ∈ profiles ∧ p.validate = .ok () := by
  obtain ⟨hp, hv⟩ := List.mem_filter.1 h
  refine ⟨hp, ?_⟩
  cases hc : p.validate with
  | error e => simp [hc, Except.isOk, Except.toBool] at hv
  | ok u => rfl

theorem named_of_mem_usable {profiles : List Profile} :
    ∀ p ∈ usable profiles, p.serverAddr ≠ "" :=
  fun _ hp => Profile.serverAddr_ne_of_validate (validate_of_mem_usable hp).2

/-- **An import saves the usable profiles**, all of them, or those before one that cannot be
saved. -/
theorem saveAll_cases (profiles : List Profile) (s : ProfileStore Disk) (d : Disk) :
    (∃ s' d', SavedAll s d (usable profiles) s' d' ∧ saveAll profiles s d =
      ((.errors (skipNotices profiles), .ok (usable profiles).length), s', d')) ∨
    ∃ saved p rest s₁ d₁ printed e s' d', usable profiles = saved ++ p :: rest ∧
      SavedAll s d saved s₁ d₁ ∧ s₁.save p d₁ = (.error e, s', d') ∧
        saveAll profiles s d = ((printed, .error e), s', d') := by
  induction profiles generalizing s d with
  | nil => exact .inl ⟨s, d, .nil s d, rfl⟩
  | cons p profiles ih =>
    cases hv : p.validate with
    | error e =>
      obtain ⟨husable, hnotices⟩ := usable_cons_of_error hv profiles
      rw [husable, hnotices]
      rcases ih s d with ⟨s', d', hall, hrun⟩ |
        ⟨saved, q, rest, s₁, d₁, printed, e', s', d', hsplit, hall, hq, hrun⟩
      · left
        refine ⟨s', d', hall, ?_⟩
        simp only [saveAll, hv, hrun]
        rfl
      · right
        refine ⟨saved, q, rest, s₁, d₁, (Console.errors [skipNotice p e]).andThen printed, e', s',
          d', hsplit, hall, hq, ?_⟩
        simp only [saveAll, hv, hrun]
    | ok u =>
      obtain ⟨husable, hnotices⟩ := usable_cons_of_ok hv profiles
      rw [husable, hnotices]
      rcases hs : s.save p d with ⟨e | u, s₁, d₁⟩
      · right
        refine ⟨[], p, _, s, d, .silent, e, s₁, d₁, rfl, .nil s d, hs, ?_⟩
        simp only [saveAll, hv, hs]
      · rcases ih s₁ d₁ with ⟨s', d', hall, hrun⟩ |
          ⟨saved, q, rest, s₂, d₂, printed, e', s', d', hsplit, hall, hq, hrun⟩
        · left
          refine ⟨s', d', .cons hs hall, ?_⟩
          simp only [saveAll, hv, hs, hrun]
          rfl
        · right
          refine ⟨p :: saved, q, rest, s₂, d₂, printed, e', s', d', ?_, .cons hs hall, hq, ?_⟩
          · rw [hsplit]
            rfl
          · simp only [saveAll, hv, hs, hrun]
            rfl

/-! ## The first profile for each server -/

/-- Where the servers are not too many, each has its first profile in the working set. -/
theorem findProfile?_workingSet {profiles : List Profile}
    (h : (profiles.map (·.serverAddr)).dedup.length ≤ maxProfiles) (server : String) :
    findProfile? (ProfileStore.workingSet profiles) server = findProfile? profiles server := by
  have hsub : (firstOfEach profiles).map (·.serverAddr) ⊆
      (profiles.map (·.serverAddr)).dedup := by
    intro a ha
    obtain ⟨p, hp, rfl⟩ := List.mem_map.1 ha
    exact List.mem_dedup.2 (List.mem_map_of_mem (mem_firstOfEachFrom hp).1)
  have hlength := ((nodup_firstOfEachFrom [] profiles).subperm hsub).length_le
  rw [List.length_map, ← firstOfEach] at hlength
  rw [ProfileStore.workingSet, List.take_of_length_le (Nat.le_trans hlength h), firstOfEach,
    findProfile?_firstOfEachFrom]
  rfl

theorem usable_cons (p : Profile) (profiles : List Profile) :
    usable (p :: profiles) =
      if p.validate.isOk = true then p :: usable profiles else usable profiles :=
  List.filter_cons

/-- A server has the profile that it has if that can be used, and else none. -/
theorem findProfile?_usable {profiles : List Profile}
    (hd : (profiles.map (·.serverAddr)).Nodup) (server : String) :
    findProfile? (usable profiles) server =
      (findProfile? profiles server).filter fun p => p.validate.isOk := by
  induction profiles with
  | nil => rfl
  | cons q profiles ih =>
    obtain ⟨hq, hd⟩ := List.nodup_cons.1 hd
    rw [findProfile?_cons, usable_cons]
    by_cases hs : q.serverAddr = server
    · subst hs
      have hnone := ih hd
      rw [(findProfile?_eq_none_iff _ _).2 hq] at hnone
      rw [if_pos rfl, Option.filter_some]
      split
      · rw [findProfile?_cons, if_pos rfl]
      · exact hnone
    · rw [if_neg hs, ← ih hd]
      split
      · rw [findProfile?_cons, if_neg hs]
      · rfl

/-- A profile that is upserted is what its server has then. -/
theorem findProfile?_upsertAll_of_mem {upserted profiles : List Profile}
    (hd : (upserted.map (·.serverAddr)).Nodup) {p : Profile} (hp : p ∈ upserted) :
    findProfile? (upsertAll upserted profiles) p.serverAddr = some p := by
  rw [findProfile?_upsertAll hd, findProfile?_of_mem hd hp]
  rfl

theorem findProfile?_upsertAll_of_notMem {upserted profiles : List Profile}
    (hd : (upserted.map (·.serverAddr)).Nodup) {server : String}
    (hn : server ∉ upserted.map (·.serverAddr)) :
    findProfile? (upsertAll upserted profiles) server = findProfile? profiles server := by
  rw [findProfile?_upsertAll hd, (findProfile?_eq_none_iff _ _).2 hn]
  rfl

/-! ## The flat file -/

variable {file : DocumentFile} {t₀ : Table} {s s' : ProfileStore Disk} {d d' : Disk} {p : Profile}

/-- Where an import takes its profiles from. -/
def importSource (source : Option String) (full : Bool) (w : Workplace) : Backend Disk :=
  flatFile (w.path (source.getD w.paths.flatFile)) (if full then .full else .pipeOnly)

/-- The profiles of a flat file that was read, if there is one. -/
def flatProfiles (dialect : Dialect) (r : Option String) : List Profile :=
  ProfileStore.workingSet ((r.map (profilesOfText dialect)).getD [])

theorem openOn_flatFile {path : FilePath} {dialect : Dialect} {r : Option String}
    (h : DocumentFile.readText path d = (.ok r, d')) :
    ProfileStore.openOn (flatFile path dialect) d =
      (.ok ⟨flatFile path dialect, flatProfiles dialect r⟩, d') := by
  cases r <;> simp [ProfileStore.openOn, ProfileStore.load, ProfileStore.ofBackend, flatFile,
    flatProfiles, h]

theorem exists_readText_of_openOn {path : FilePath} {dialect : Dialect} {flat : ProfileStore Disk}
    (h : ProfileStore.openOn (flatFile path dialect) d = (.ok flat, d')) :
    ∃ r, DocumentFile.readText path d = (.ok r, d') ∧
      flat = ⟨flatFile path dialect, flatProfiles dialect r⟩ := by
  rcases hr : DocumentFile.readText path d with ⟨e | r, d₁⟩
  · simp [ProfileStore.openOn, ProfileStore.load, ProfileStore.ofBackend, flatFile, hr] at h
  · rw [openOn_flatFile hr] at h
    cases h
    exact ⟨r, rfl, rfl⟩

/-- The profiles of a text are told by its characters. -/
theorem profilesOfText_ofList (dialect : Dialect) (cs : List Char) :
    profilesOfText dialect (String.ofList cs) =
      ((Text.lines cs).filter fun l => !l.all Text.isBlank).filterMap fun l =>
        Profile.ofFields? (dialect.splitChars (Text.dropCarriageReturn l)) := by
  simp only [profilesOfText, Profile.ofLine?, String.toList_ofList]

/-! ## A second import -/

/-- An import of profiles that are kept already changes nothing. -/
theorem saveAll_again {tree : FileTree} {t : Table} (hb : s.backend = sectionFile file)
    (hr : (file.read (.ofTree tree)).1 = .ok t) {profiles : List Profile}
    (hp : ∀ p ∈ usable profiles, findProfile? s.profiles p.serverAddr = some p)
    (hw : usable profiles ≠ [] → tree.Replaceable file.path ∧ putProfiles t s.profiles = t ∧
      file.format.ReadsBack t) :
    ∃ tree', saveAll profiles s (.ofTree tree) =
        ((.errors (skipNotices profiles), .ok (usable profiles).length), s, .ofTree tree') ∧
      (file.read (.ofTree tree')).1 = .ok t := by
  induction profiles generalizing tree with
  | nil => exact ⟨tree, rfl, hr⟩
  | cons q profiles ih =>
    cases hv : q.validate with
    | error e =>
      obtain ⟨husable, hnotices⟩ := usable_cons_of_error hv profiles
      rw [husable] at hp hw
      obtain ⟨tree', hrun, hread⟩ := ih hr hp hw
      refine ⟨tree', ?_, hread⟩
      rw [husable, hnotices]
      simp only [saveAll, hv, hrun]
      rfl
    | ok u =>
      obtain ⟨husable, hnotices⟩ := usable_cons_of_ok hv profiles
      rw [husable] at hp hw
      obtain ⟨hreplaceable, hput, hback⟩ := hw (List.cons_ne_nil _ _)
      obtain ⟨tree₁, hsave, hread₁, hreplaceable₁⟩ :=
        save_again hb hr (hp q List.mem_cons_self) hreplaceable hput hback
      obtain ⟨tree', hrun, hread⟩ := ih hread₁ (fun p hm => hp p (List.mem_cons_of_mem q hm))
        fun _ => ⟨hreplaceable₁, hput, hback⟩
      refine ⟨tree', ?_, hread⟩
      rw [husable, hnotices]
      simp only [saveAll, hv, hsave, hrun]
      rfl

/-! ## Imports -/

section Imports

variable {source : Option String} {full : Bool} {w : Workplace} {flat : ProfileStore Disk}
  {d₁ d₂ : Disk}

/-- What an import does once both files could be opened. -/
theorem importProfiles_eq (hs : ProfileStore.openOn w.backend d = (.ok s, d₁))
    (hf : ProfileStore.openOn (importSource source full w) d₁ = (.ok flat, d₂)) :
    importProfiles source full w d =
      match saveAll flat.profiles s d₂ with
      | ((printed, .error e), _, d) => (.failure printed (.store e), d)
      | ((printed, .ok count), _, d) =>
        (.success (printed.andThen (.line ("Imported " ++ toString count ++ " profile(s) from " ++
          source.getD w.paths.flatFile))), d) := by
  unfold importSource at hf
  rcases hrun : saveAll flat.profiles s d₂ with ⟨⟨printed, e | count⟩, s', d'⟩ <;>
    simp only [importProfiles, withProfiles, hs, hf, hrun]

/-- The usable profiles of a flat file are for different servers. -/
theorem nodup_usable_flatProfiles (dialect : Dialect) (r : Option String) :
    ((usable (flatProfiles dialect r)).map (·.serverAddr)).Nodup :=
  (isProfileSet_workingSet _).distinct.sublist (List.filter_sublist.map _)

theorem isPlainName_store : IsPlainName "flightdeck.toml" :=
  ⟨by decide, by decide, by decide, by decide⟩

/-- The path of the store ends in a name of its own. -/
theorem shown_storeFile (w : Workplace) :
    w.storeFile.path.shown = joinPath w.paths.configDir "flightdeck.toml" :=
  rfl

/-- An import that changes nothing: it succeeds, and the document is the one that there was. -/
def ImportsNothing (source : Option String) (full : Bool) (w : Workplace) (tree : FileTree) :
    Prop :=
  ∃ s flat d₁ d₂, ProfileStore.openOn w.backend (.ofTree tree) = (.ok s, d₁) ∧
    ProfileStore.openOn (importSource source full w) d₁ = (.ok flat, d₂) ∧
    (saveAll flat.profiles s d₂).2.1 = s ∧
    (importProfiles source full w (.ofTree tree)).1.code = 0 ∧
    (w.storeFile.read (.ofTree (importProfiles source full w (.ofTree tree)).2.tree)).1 =
      (w.storeFile.read (.ofTree tree)).1

/-- Where an import changes nothing, the store has what is imported already. -/
theorem ImportsNothing.kept {tree : FileTree} (h : ImportsNothing source full w tree)
    (hs : ProfileStore.openOn w.backend (.ofTree tree) = (.ok s, d₁))
    (hf : ProfileStore.openOn (importSource source full w) d₁ = (.ok flat, d₂)) :
    ∀ p ∈ usable flat.profiles, findProfile? s.profiles p.serverAddr = some p := by
  obtain ⟨s, flat, d₁, d₂, hs', hf', hsame, hcode, -⟩ := h
  cases hs'.symm.trans hs
  cases hf'.symm.trans hf
  rcases saveAll_cases flat.profiles s d₂ with ⟨s', d', hall, hrun⟩ |
    ⟨saved, p, rest, s', d', printed, e, s'', d'', -, -, -, hrun⟩
  · rw [hrun] at hsame
    obtain rfl : s' = s := hsame
    obtain ⟨r, -, rfl⟩ := exists_readText_of_openOn hf
    intro p hp
    rw [hall.profiles_eq]
    exact findProfile?_upsertAll_of_mem (nodup_usable_flatProfiles _ r) hp
  · rw [importProfiles_eq hs hf, hrun] at hcode
    cases hcode

/-- A file that was read for an import is read again after it, unless the file of the store is in
its place: it is as before, or it was beside that file and is no longer there. -/
theorem readText_again {path other : FilePath} {tree tree' : FileTree} {r : Option String}
    (h : (DocumentFile.readText other (.ofTree tree)).1 = .ok r)
    (hr : tree' = tree ∨ FileTree.Replaced path tree tree' ∧ r ≠ none)
    (hne : ¬tree'.SamePlace path other) :
    ∃ r', DocumentFile.readText other (.ofTree tree') = (.ok r', .ofTree tree') ∧
      (r' = r ∨ r' = none) := by
  rcases hr with rfl | ⟨hr, hsome⟩
  · obtain ⟨-, hdisk⟩ := DocumentFile.readText_congr (rfl : tree'.read? other = tree'.read? other)
    exact ⟨r, Prod.ext h hdisk, .inl rfl⟩
  · rcases DocumentFile.readText_cases h with ⟨-, hnone⟩ | ⟨bytes, hb⟩
    · exact absurd hnone hsome
    · rcases hr.read?_other hb with hsame | hgone | hplace
      · obtain ⟨hread, hdisk⟩ := DocumentFile.readText_congr (hsame.trans hb.symm)
        exact ⟨r, Prod.ext (hread.trans h) hdisk, .inl rfl⟩
      · refine ⟨none, ?_, .inr rfl⟩
        have hread : Disk.read other (.ofTree tree') = (.error .notFound, .ofTree tree') := by
          rw [← hgone]
          rfl
        simp [DocumentFile.readText, hread]
      · exact absurd hplace hne

/-- A store that is in step with its file after no profiles, or some, were saved. -/
theorem InStep.reopens_after {saved : List Profile} (h' : InStep w.storeFile t₀ s' d')
    (hr : saved ≠ [] → FileTree.Replaced w.storeFile.path d.tree d'.tree)
    (hsame : saved = [] → d' = d) {e : StoreError} {d₂ : Disk}
    (hp : s'.save p d' = (.error e, s', d₂))
    (hway : saved ≠ [] ∨ (∃ y, d.tree.locate w.storeFile.path = .ok y) ∨
      w.storeFile.path.IsStraight) : w.Reopens d₂.tree s'.profiles := by
  refine h'.reopens (h'.save_failed isPlainName_store (shown_storeFile w) ?_ hp)
  by_cases hn : saved = []
  · rw [hsame hn]
    exact hway.resolve_left fun hne => hne hn
  · obtain ⟨-, y, -, hy, -⟩ := hr hn
    exact .inl ⟨y, hy⟩

/-- An import of what the store has already changes nothing, if its file can be replaced where
there is something to save. -/
theorem importsNothing_of_kept {tree : FileTree} {t : Table} {r : Option String}
    (ht : (w.storeFile.read (.ofTree tree)).1 = .ok t)
    (hr : DocumentFile.readText (w.path (source.getD w.paths.flatFile)) (.ofTree tree) =
      (.ok r, .ofTree tree))
    (hp : ∀ p ∈ usable (flatProfiles (if full then .full else .pipeOnly) r),
      findProfile? (ProfileStore.workingSet (profilesOfDocument t)) p.serverAddr = some p)
    (hw : usable (flatProfiles (if full then .full else .pipeOnly) r) ≠ [] →
      tree.Replaceable w.storeFile.path ∧
        putProfiles t (ProfileStore.workingSet (profilesOfDocument t)) = t ∧
          w.storeFile.format.ReadsBack t) :
    ImportsNothing source full w tree := by
  have hopen := Workplace.openOn_ofTree ht
  have hflat : ProfileStore.openOn (importSource source full w) (.ofTree tree) = _ :=
    openOn_flatFile hr
  obtain ⟨tree', hrun, hlast⟩ := saveAll_again
    (s := ⟨w.backend, ProfileStore.workingSet (profilesOfDocument t)⟩) rfl ht hp hw
  refine ⟨_, _, _, _, hopen, hflat, by rw [hrun], ?_, ?_⟩
  · rw [importProfiles_eq hopen hflat, hrun]
    rfl
  · rw [importProfiles_eq hopen hflat, hrun]
    exact hlast.trans ht.symm

/-- After an import that saved all it could use, the same import changes nothing. -/
theorem importsNothing_after {r : Option String} {profiles : List Profile}
    (hprofiles : profiles = flatProfiles (if full then .full else .pipeOnly) r)
    (hr : (DocumentFile.readText (w.path (source.getD w.paths.flatFile)) (.ofTree d.tree)).1 =
      .ok r)
    (hback : usable profiles ≠ [] →
      w.storeFile.format.ReadsBack (putProfiles t₀ (upsertAll (usable profiles) s.profiles)))
    (h' : InStep w.storeFile t₀ s' d')
    (hsaved : s'.profiles = upsertAll (usable profiles) s.profiles)
    (hsame : usable profiles = [] → d' = d)
    (hreplaced : usable profiles ≠ [] →
      FileTree.Replaced w.storeFile.path d.tree d'.tree ∧ d'.tree.read? w.storeFile.path =
        .ok (w.storeFile.format.write (putProfiles t₀ s'.profiles)).toUTF8)
    (hplace : ¬d'.tree.SamePlace w.storeFile.path (w.path (source.getD w.paths.flatFile))) :
    ImportsNothing source full w d'.tree := by
  have hchanged : d'.tree = d.tree ∨
      FileTree.Replaced w.storeFile.path d.tree d'.tree ∧ r ≠ none := by
    by_cases hn : usable profiles = []
    · exact .inl (by rw [hsame hn])
    · refine .inr ⟨(hreplaced hn).1, fun hnone => hn ?_⟩
      rw [hprofiles, hnone]
      rfl
  obtain ⟨r', hread, hr'⟩ := readText_again hr hchanged hplace
  have hsub : ∀ p ∈ usable (flatProfiles (if full then .full else .pipeOnly) r'),
      p ∈ usable profiles := by
    rcases hr' with rfl | rfl
    · rw [hprofiles]
      exact fun p hp => hp
    · exact fun p hp => nomatch hp
  obtain ⟨t, ht, hbase, hperm⟩ := h'.read
  have hdistinct : ((ProfileStore.workingSet (profilesOfDocument t)).map (·.serverAddr)).Nodup :=
    (isProfileSet_workingSet _).distinct
  refine importsNothing_of_kept ht hread (fun p hp => ?_) fun hne => ?_
  · have hmem := hsub p hp
    rw [findProfile?_perm hperm hdistinct, hsaved]
    rw [hprofiles] at hmem ⊢
    exact findProfile?_upsertAll_of_mem (nodup_usable_flatProfiles _ r) hmem
  · obtain ⟨p, hp⟩ := List.exists_mem_of_ne_nil _ hne
    have hn : usable profiles ≠ [] := List.ne_nil_of_mem (hsub p hp)
    obtain ⟨⟨-, -, -, -, -, -, hready⟩, hbytes⟩ := hreplaced hn
    have hprinted : w.storeFile.format.ReadsBack (putProfiles t₀ s'.profiles) := by
      rw [hsaved]
      exact hback hn
    obtain rfl : t = putProfiles t₀ s'.profiles :=
      Except.ok.inj (ht.symm.trans (DocumentFile.read_ofTree hprinted hbytes))
    refine ⟨hready.replaceable, ?_, hprinted⟩
    rw [hbase, putProfiles_perm t₀ hperm hdistinct]

section Opened

variable {t : Table} (hd : d.IsHonest)
  (hs : ProfileStore.openOn w.backend d = (.ok s, d₁)) (ht : (w.storeFile.read d).1 = .ok t)
  (hf : ProfileStore.openOn (importSource source full w) d₁ = (.ok flat, d₂))
  (hback : ∀ l, l <+: usable flat.profiles → l ≠ [] →
    w.storeFile.format.ReadsBack (putProfiles t (upsertAll l s.profiles)))

include hd hs ht hf

/-- What is known once both files could be opened. -/
theorem inStep_of_opened :
    InStep w.storeFile t s d₂ ∧ d₂.tree = d.tree ∧
      ∃ r, (DocumentFile.readText (w.path (source.getD w.paths.flatFile)) (.ofTree d.tree)).1 =
          .ok r ∧ flat.profiles = flatProfiles (if full then .full else .pipeOnly) r := by
  have hin : InStep w.storeFile t s d₁ := inStep_of_openOn hd hs ht
  obtain ⟨r, hr, rfl⟩ := exists_readText_of_openOn hf
  obtain ⟨hr', rfl⟩ := DocumentFile.readText_of_isHonest hin.honest hr
  have htree : d₁.tree = d.tree := by
    obtain ⟨t', hread, -⟩ := ProfileStore.exists_read_of_openOn hs
    have hdisk := congrArg Disk.tree (w.storeFile.read_disk d)
    rw [hread] at hdisk
    exact hdisk
  rw [htree] at hr'
  exact ⟨⟨hin.backend, hin.profiles, hin.honest.of_suffix (List.tail_suffix _), hin.read⟩, htree,
    r, hr', rfl⟩

include hback

/-- An import that saves all the usable profiles. -/
theorem importProfiles_all (hall : SavedAll s d₂ (usable flat.profiles) s' d')
    (hrun : saveAll flat.profiles s d₂ =
      ((.errors (skipNotices flat.profiles), .ok (usable flat.profiles).length), s', d')) :
    importProfiles source full w d =
        (.success ⟨["Imported " ++ toString (usable flat.profiles).length ++ " profile(s) from " ++
          source.getD w.paths.flatFile], skipNotices flat.profiles⟩, d') ∧
      s'.profiles = upsertAll (usable flat.profiles) s.profiles ∧ w.Reopens d'.tree s'.profiles ∧
      (¬d'.tree.SamePlace w.storeFile.path (w.path (source.getD w.paths.flatFile)) →
        ImportsNothing source full w d'.tree) := by
  obtain ⟨hin, htree, r, hr, hflat⟩ := inStep_of_opened hd hs ht hf
  obtain ⟨hin', hprofiles, hreplaced⟩ := hin.savedAll named_of_mem_usable hback hall
  refine ⟨?_, hprofiles, hin'.reopens rfl, fun hplace => ?_⟩
  · rw [importProfiles_eq hs hf, hrun]
    simp [Console.errors, Console.line, Console.andThen]
  · refine importsNothing_after hflat (htree ▸ hr) (hback _ List.prefix_rfl) hin' hprofiles ?_
      hreplaced hplace
    intro hnil
    rw [hnil] at hall
    cases hall
    rfl

/-- An import that saves the usable profiles before one that cannot be saved. -/
theorem importProfiles_failed {saved rest : List Profile} {e : StoreError} {printed : Console}
    {s'' : ProfileStore Disk} {d'' : Disk} (hsplit : usable flat.profiles = saved ++ p :: rest)
    (hall : SavedAll s d₂ saved s' d') (hp : s'.save p d' = (.error e, s'', d''))
    (hrun : saveAll flat.profiles s d₂ = ((printed, .error e), s'', d'')) :
    importProfiles source full w d = (.failure printed (.store e), d'') ∧ s'' = s' ∧
      s'.profiles = upsertAll saved s.profiles ∧
      (saved ≠ [] ∨ (∃ y, d.tree.locate w.storeFile.path = .ok y) ∨
        w.storeFile.path.IsStraight → w.Reopens d''.tree s'.profiles) := by
  obtain ⟨hin, htree, -⟩ := inStep_of_opened hd hs ht hf
  have hfirst : saved <+: usable flat.profiles := ⟨p :: rest, hsplit.symm⟩
  obtain ⟨hin', hprofiles, hreplaced⟩ := hin.savedAll
    (fun q hq => named_of_mem_usable q (hfirst.subset hq))
    (fun l hl => hback l (hl.trans hfirst)) hall
  obtain ⟨rfl, -⟩ := ProfileStore.save_failed hin'.backend hp
  refine ⟨?_, rfl, hprofiles, fun hway => ?_⟩
  · rw [importProfiles_eq hs hf, hrun]
  · refine hin'.reopens_after (fun hne => (hreplaced hne).1) ?_ hp (htree.symm ▸ hway)
    rintro rfl
    cases hall
    rfl

end Opened

/-- **What an import does.** The usable profiles of the flat file are saved in their order, all of
them or those before one that cannot be saved; the working set is the one before with these
upserted, and no other server is touched. A store that is opened anew has the same profiles, if any
were saved or the path of the store leads somewhere already or does not go up. After all were saved,
the same import changes nothing more, unless the flat file is the file of the store itself. -/
theorem imported {t : Table} (hd : d.IsHonest)
    (hs : ProfileStore.openOn w.backend d = (.ok s, d₁)) (ht : (w.storeFile.read d).1 = .ok t)
    (hf : ProfileStore.openOn (importSource source full w) d₁ = (.ok flat, d₂))
    (hback : ∀ l, l <+: usable flat.profiles → l ≠ [] →
      w.storeFile.format.ReadsBack (putProfiles t (upsertAll l s.profiles))) :
    let after := (saveAll flat.profiles s d₂).2.1
    let x := importProfiles source full w d
    ∃ saved rest, usable flat.profiles = saved ++ rest ∧
      after.profiles = upsertAll saved s.profiles ∧
      (rest = [] → x.1 = .success ⟨["Imported " ++ toString (usable flat.profiles).length ++
        " profile(s) from " ++ source.getD w.paths.flatFile], skipNotices flat.profiles⟩) ∧
      (∀ p ∈ rest.head?, x.1.code = 1 ∧
        ∃ before e, after.save p before = (.error e, after, x.2)) ∧
      (saved ≠ [] ∨ (∃ y, d.tree.locate w.storeFile.path = .ok y) ∨
        w.storeFile.path.IsStraight → w.Reopens x.2.tree after.profiles) ∧
      (∀ server, server ∉ (usable flat.profiles).map (·.serverAddr) →
        after.get? server = s.get? server ∧ ∀ p, s.get? server = some p →
          ∃ found, w.Reopens x.2.tree found ∧ findProfile? found server = some p) ∧
      (rest = [] → ¬x.2.tree.SamePlace w.storeFile.path
          (w.path (source.getD w.paths.flatFile)) → ImportsNothing source full w x.2.tree) := by
  obtain ⟨hin, htree, r, -, hflat⟩ := inStep_of_opened hd hs ht hf
  have hnodup : ((usable flat.profiles).map (·.serverAddr)).Nodup := by
    rw [hflat]
    exact nodup_usable_flatProfiles _ r
  have hothers {saved rest : List Profile} (hsplit : usable flat.profiles = saved ++ rest)
      {server : String} (hn : server ∉ (usable flat.profiles).map (·.serverAddr)) :
      findProfile? (upsertAll saved s.profiles) server = findProfile? s.profiles server := by
    rw [hsplit, List.map_append] at hn hnodup
    exact findProfile?_upsertAll_of_notMem (List.nodup_append.1 hnodup).1
      fun hm => hn (List.mem_append_left _ hm)
  intro after x
  rcases saveAll_cases flat.profiles s d₂ with ⟨s', d', hall, hrun⟩ |
    ⟨saved, p, rest, s', d', printed, e, s'', d'', hsplit, hall, hp, hrun⟩
  · obtain ⟨hx, hprofiles, hreopens, hagain⟩ := importProfiles_all hd hs ht hf hback hall hrun
    have hafter : after = s' := congrArg (·.2.1) hrun
    rw [hafter, show x = _ from hx]
    refine ⟨usable flat.profiles, [], (List.append_nil _).symm, hprofiles, fun _ => rfl, by simp,
      fun _ => hreopens, fun server hn => ?_, fun _ hplace => hagain hplace⟩
    have hsame := hothers (List.append_nil _).symm hn
    rw [← hprofiles] at hsame
    exact ⟨hsame, fun q hq => ⟨s'.profiles, hreopens, hsame.trans hq⟩⟩
  · obtain ⟨hx, rfl, hprofiles, hreopens⟩ :=
      importProfiles_failed hd hs ht hf hback hsplit hall hp hrun
    have hafter : after = s'' := congrArg (·.2.1) hrun
    rw [hafter, show x = _ from hx]
    refine ⟨saved, p :: rest, hsplit, hprofiles, nofun, ?_, hreopens, fun server hn => ?_, nofun⟩
    · rintro q ⟨⟩
      exact ⟨rfl, d', e, hp⟩
    · have hsame := hothers hsplit hn
      rw [← hprofiles] at hsame
      refine ⟨hsame, fun q hq => ⟨s''.profiles, hreopens (.inr (.inl ?_)), hsame.trans hq⟩⟩
      obtain ⟨y, hy⟩ := hin.exists_locate (mem_of_findProfile?_eq_some hq).1
      exact ⟨y, htree ▸ hy⟩

/-- A store for two servers, and a flat file with a profile for one of them and one without a
key. -/
def importTree : FileTree :=
  .directory [
    ("c", .directory [("flightdeck.toml", .file "[server-h]\n[\"server-h:1\"]\n".toUTF8)]),
    ("o", .file "h:1|:1|k|u|p|0|1|1\ni:1|:1||u|p|0|1|1\n".toUTF8)]

def importPlace : Workplace := ⟨[], .inDir "c"⟩

def importDocument : Table := [("server-h", .table []), ("server-h:1", .table [])]

def importText : String := "h:1|:1|k|u|p|0|1|1\ni:1|:1||u|p|0|1|1\n"

def importProfile : Profile :=
  { Profile.new "h:1" with
    localAddr := ":1", key := "k", authUser := "u", authPass := "p", isPartial := false,
    udpPort := 1, udpTcpFactor := 1 }

/-- What the import does. -/
def importOutcome : Outcome × Disk :=
  importProfiles (some "o") false importPlace (.ofTree importTree)

/-- What the import finds. -/
theorem openOn_importTree :
    (importPlace.storeFile.read (.ofTree importTree)).1 = .ok importDocument ∧
    (DocumentFile.readText (importPlace.path "o") (.ofTree importTree)).1 =
      .ok (some importText) ∧
    ProfileStore.openOn importPlace.backend (.ofTree importTree) =
      (.ok ⟨importPlace.backend, [Profile.new "h", Profile.new "h:1"]⟩, .ofTree importTree) ∧
    ProfileStore.openOn (importSource (some "o") false importPlace) (.ofTree importTree) =
      (.ok ⟨importSource (some "o") false importPlace,
        [importProfile, { importProfile with serverAddr := "i:1", key := "" }]⟩,
          .ofTree importTree) := by
  have hread : (importPlace.storeFile.read (.ofTree importTree)).1 = .ok importDocument :=
    eq_ok_of_toOption (by decide +kernel)
  have htext : (DocumentFile.readText (importPlace.path "o") (.ofTree importTree)).1 =
      .ok (some importText) :=
    eq_ok_of_toOption (by decide +kernel)
  refine ⟨hread, htext, ?_, ?_⟩
  · have hprofiles : ProfileStore.workingSet (profilesOfDocument importDocument) =
        [Profile.new "h", Profile.new "h:1"] := by decide +kernel
    rw [← hprofiles]
    exact Workplace.openOn_ofTree hread
  · have hprofiles : flatProfiles .pipeOnly (some importText) =
        [importProfile, { importProfile with serverAddr := "i:1", key := "" }] := by
      decide +kernel
    rw [← hprofiles]
    exact openOn_flatFile (Prod.ext htext (DocumentFile.readText_congr rfl).2)

/-- What the import saves. -/
theorem usable_importTree :
    usable [importProfile, { importProfile with serverAddr := "i:1", key := "" }] =
      [importProfile] ∧
    upsertAll [importProfile] [Profile.new "h", Profile.new "h:1"] =
      [Profile.new "h", importProfile] ∧
    importPlace.storeFile.format.ReadsBack
      (putProfiles importDocument [Profile.new "h", importProfile]) ∧
    importOutcome.1.code = 0 := by
  refine ⟨by decide +kernel, by decide +kernel, ?_, by decide +kernel⟩
  exact (Format.readsBack_pretty_iff _).2 (by decide +kernel)

theorem readsBack_importTree (l : List Profile)
    (hl : l <+: usable [importProfile, { importProfile with serverAddr := "i:1", key := "" }])
    (hne : l ≠ []) : importPlace.storeFile.format.ReadsBack
      (putProfiles importDocument (upsertAll l [Profile.new "h", Profile.new "h:1"])) := by
  obtain ⟨husable, hupserted, hback, -⟩ := usable_importTree
  rw [husable] at hl
  rcases List.prefix_cons_iff.1 hl with rfl | ⟨m, rfl, hm⟩
  · exact absurd rfl hne
  · rw [List.prefix_nil.1 hm, hupserted]
    exact hback

theorem not_samePlace_importPlace (tree : FileTree) :
    ¬tree.SamePlace importPlace.storeFile.path (importPlace.path "o") := by
  intro h
  exact absurd (h.last_eq rfl rfl) (by decide)

/-- The profile replaces that of its server, and the next import changes nothing. -/
theorem imported_importTree :
    importPlace.Reopens importOutcome.2.tree [Profile.new "h", importProfile] ∧
      ImportsNothing (some "o") false importPlace importOutcome.2.tree := by
  obtain ⟨saved, rest, hsplit, hafter, -, hfailed, hopen, -, hagain⟩ :=
    imported (by simp [Disk.IsHonest, Disk.ofTree]) openOn_importTree.2.2.1 openOn_importTree.1
      openOn_importTree.2.2.2 readsBack_importTree
  obtain ⟨husable, hupserted, -, hcode⟩ := usable_importTree
  obtain rfl : rest = [] := by
    cases rest with
    | nil => rfl
    | cons p rest =>
      have hone := (hfailed p rfl).1
      rw [importOutcome] at hcode
      omega
  obtain rfl : saved = [importProfile] := by
    rw [← husable]
    exact (hsplit.trans (List.append_nil saved)).symm
  refine ⟨?_, hagain rfl (not_samePlace_importPlace _)⟩
  have hreopens := hopen (.inl (List.cons_ne_nil _ _))
  rw [hafter, hupserted] at hreopens
  exact hreopens

/-- A document that is also a line of a flat file. -/
def ownText : String := "k='a:1|:1|k|||0|1|1|'\n"

def ownTree : FileTree :=
  .directory [("c", .directory [("flightdeck.toml", .file ownText.toUTF8)])]

/-- The file of the store imported into the store. -/
def ownOutcome : Outcome × Disk :=
  importProfiles (some "c/flightdeck.toml") false importPlace (.ofTree ownTree)

/-- The profile that the line gives. -/
def ownProfile : Profile :=
  { Profile.new "k='a:1" with
    localAddr := ":1", key := "k", isPartial := false, udpPort := 1, udpTcpFactor := 1,
    domain := "'" }

/-- What the file is then. -/
def ownDocument : Table := putProfiles [("k", .string "a:1|:1|k|||0|1|1|")] [ownProfile]

/-- What the import finds, and what it would find the next time: the line was printed with other
quotes, so it gives a profile for another server. -/
theorem usable_ownTree :
    (importPlace.storeFile.read (.ofTree ownTree)).1 =
      .ok [("k", .string "a:1|:1|k|||0|1|1|")] ∧
    (DocumentFile.readText (importPlace.path "c/flightdeck.toml") (.ofTree ownTree)).1 =
      .ok (some ownText) ∧
    usable (flatProfiles .pipeOnly (some ownText)) = [ownProfile] ∧
    importPlace.storeFile.format.ReadsBack ownDocument ∧ ownOutcome.1.code = 0 ∧
    (usable (flatProfiles .pipeOnly (some (importPlace.storeFile.format.write ownDocument)))).map
      (fun p => (findProfile? (ProfileStore.workingSet (profilesOfDocument ownDocument))
        p.serverAddr).isSome) = [false] := by
  refine ⟨eq_ok_of_toOption (by decide +kernel), eq_ok_of_toOption (by decide +kernel),
    by decide +kernel, (Format.readsBack_pretty_iff _).2 (by decide +kernel), by decide +kernel, ?_⟩
  have hprinted : importPlace.storeFile.format.write ownDocument =
      String.ofList ownDocument.chars := rfl
  rw [hprinted, flatProfiles, Option.map_some, Option.getD_some, profilesOfText_ofList]
  decide +kernel

/-- The import has saved the profile beside the value that there was. -/
theorem read?_ownOutcome : ownOutcome.2.tree.read? importPlace.storeFile.path =
    .ok (importPlace.storeFile.format.write ownDocument).toUTF8 := by
  obtain ⟨hread, htext, husable, hback, hcode, -⟩ := usable_ownTree
  have hs : ProfileStore.openOn importPlace.backend (.ofTree ownTree) =
      (.ok ⟨importPlace.backend, []⟩, .ofTree ownTree) :=
    Workplace.openOn_ofTree hread
  have hf : ProfileStore.openOn (importSource (some "c/flightdeck.toml") false importPlace)
      (.ofTree ownTree) = (.ok ⟨importSource (some "c/flightdeck.toml") false importPlace,
        flatProfiles .pipeOnly (some ownText)⟩, .ofTree ownTree) :=
    openOn_flatFile (Prod.ext htext (DocumentFile.readText_congr rfl).2)
  obtain ⟨hin, -⟩ := inStep_of_opened (by simp [Disk.IsHonest, Disk.ofTree]) hs hread hf
  have hx := importProfiles_eq hs hf
  rcases saveAll_cases (flatProfiles .pipeOnly (some ownText)) ⟨importPlace.backend, []⟩
      (.ofTree ownTree) with
    ⟨s', d', hall, hrun⟩ | ⟨saved, p, rest, s', d', printed, e, s'', d'', -, -, -, hrun⟩
  · have hprefixes : ∀ l, l <+: usable (flatProfiles .pipeOnly (some ownText)) → l ≠ [] →
        importPlace.storeFile.format.ReadsBack
          (putProfiles [("k", .string "a:1|:1|k|||0|1|1|")] (upsertAll l [])) := by
      intro l hl hne
      rw [husable] at hl
      rcases List.prefix_cons_iff.1 hl with rfl | ⟨m, rfl, hm⟩
      · exact absurd rfl hne
      · rw [List.prefix_nil.1 hm]
        exact hback
    obtain ⟨-, hprofiles, hreplaced⟩ := hin.savedAll named_of_mem_usable hprefixes hall
    rw [husable] at hprofiles hreplaced
    obtain ⟨-, hbytes⟩ := hreplaced (List.cons_ne_nil _ _)
    rw [hprofiles] at hbytes
    rw [show ownOutcome = _ from hx, hrun]
    exact hbytes
  · rw [show ownOutcome = _ from hx, hrun] at hcode
    cases hcode

theorem not_importsNothing_ownDocument {tree : FileTree}
    (hb : tree.read? importPlace.storeFile.path =
      .ok (importPlace.storeFile.format.write ownDocument).toUTF8) :
    ¬ImportsNothing (some "c/flightdeck.toml") false importPlace tree := by
  intro h
  obtain ⟨-, -, -, hback, -, hother⟩ := usable_ownTree
  have hread : (importPlace.storeFile.read (.ofTree tree)).1 = .ok ownDocument :=
    DocumentFile.read_ofTree hback hb
  have htext : DocumentFile.readText (importPlace.path "c/flightdeck.toml") (.ofTree tree) =
      (.ok (some (importPlace.storeFile.format.write ownDocument)), .ofTree tree) :=
    Prod.ext (DocumentFile.readText_of_read? rfl hb) (DocumentFile.readText_congr rfl).2
  have hf : ProfileStore.openOn (importSource (some "c/flightdeck.toml") false importPlace)
      (.ofTree tree) = (.ok ⟨importSource (some "c/flightdeck.toml") false importPlace,
        flatProfiles .pipeOnly (some (importPlace.storeFile.format.write ownDocument))⟩,
          .ofTree tree) :=
    openOn_flatFile htext
  have hkept := h.kept (Workplace.openOn_ofTree hread) hf
  dsimp only at hkept
  have hmem : false ∈ (usable (flatProfiles .pipeOnly
      (some (importPlace.storeFile.format.write ownDocument)))).map fun p =>
        (findProfile? (ProfileStore.workingSet (profilesOfDocument ownDocument))
          p.serverAddr).isSome := by
    rw [hother]
    exact List.mem_singleton_self false
  obtain ⟨p, hp, hnone⟩ := List.mem_map.1 hmem
  rw [hkept p hp] at hnone
  cases hnone

/-- A flat file, and a file in the place of the directory of the store, whose path goes up from a
directory that is not there. -/
def blockedTree : FileTree :=
  .directory [("b", .file "".toUTF8), ("o", .file "h:1|:1|k|u|p|0|1|1\n".toUTF8)]

def blockedPlace : Workplace := ⟨[], .inDir "a/../b"⟩

def blockedOutcome : Outcome × Disk :=
  importProfiles (some "o") false blockedPlace (.ofTree blockedTree)

/-- Where the flat file is the file of the store, a second import finds in it what the first has
written. Where the path of the store goes up from a directory that is not there, a save that fails
may have created that directory, and the store that had no profiles cannot be opened any more. -/
theorem imported_exceptions :
    (ownOutcome.1.code = 0 ∧
      ¬ImportsNothing (some "c/flightdeck.toml") false importPlace ownOutcome.2.tree) ∧
    blockedPlace.Reopens blockedTree [] ∧ blockedOutcome.1.code = 1 ∧
      ∀ profiles, ¬blockedPlace.Reopens blockedOutcome.2.tree profiles := by
  obtain ⟨-, -, -, -, hcode, -⟩ := usable_ownTree
  refine ⟨⟨hcode, not_importsNothing_ownDocument read?_ownOutcome⟩, ?_,
    by decide +kernel, ?_⟩
  · have ht : (blockedPlace.storeFile.read (.ofTree blockedTree)).1 = .ok [] :=
      eq_ok_of_toOption (by decide +kernel)
    exact Workplace.reopens_of_read ht (.refl _)
  · rintro profiles ⟨found, hs, -⟩
    have hnone : (ProfileStore.openOn blockedPlace.backend
        (.ofTree blockedOutcome.2.tree)).1.toOption.isNone = true := by decide +kernel
    rw [hs] at hnone
    cases hnone

/-- **What is imported for a server** is what the first of the lines describes that give a profile
for it, if that can be used; if it cannot, no later line is imported for the server, and it keeps
the profile that it had. -/
theorem imported_first {t : Table} {text : String} (hd : d.IsHonest)
    (hs : ProfileStore.openOn w.backend d = (.ok s, d₁)) (ht : (w.storeFile.read d).1 = .ok t)
    (hf : ProfileStore.openOn (importSource source full w) d₁ = (.ok flat, d₂))
    (htext : (DocumentFile.readText (w.path (source.getD w.paths.flatFile)) (.ofTree d.tree)).1 =
      .ok (some text))
    (hmax : ((profilesOfText (if full then .full else .pipeOnly) text).map
      (·.serverAddr)).dedup.length ≤ maxProfiles)
    (hback : ∀ l, l <+: usable flat.profiles → l ≠ [] →
      w.storeFile.format.ReadsBack (putProfiles t (upsertAll l s.profiles)))
    (hdone : (importProfiles source full w d).1.code = 0) :
    let after := (saveAll flat.profiles s d₂).2.1
    w.Reopens (importProfiles source full w d).2.tree after.profiles ∧
      ∀ server, after.get? server =
        ((findProfile? (profilesOfText (if full then .full else .pipeOnly) text) server).filter
          fun p => p.validate.isOk).or (s.get? server) := by
  obtain ⟨-, -, r, hr, hflat⟩ := inStep_of_opened hd hs ht hf
  obtain rfl : r = some text := Except.ok.inj (hr.symm.trans htext)
  intro after
  rcases saveAll_cases flat.profiles s d₂ with ⟨s', d', hall, hrun⟩ |
    ⟨saved, p, rest, s', d', printed, e, s'', d'', hsplit, hall, hp, hrun⟩
  · obtain ⟨hx, hprofiles, hreopens, -⟩ := importProfiles_all hd hs ht hf hback hall hrun
    have hafter : after = s' := congrArg (·.2.1) hrun
    rw [hafter, hx]
    refine ⟨hreopens, fun server => ?_⟩
    have hfirst : findProfile? flat.profiles server =
        findProfile? (profilesOfText (if full then .full else .pipeOnly) text) server := by
      rw [hflat]
      exact findProfile?_workingSet hmax server
    have hdistinct : (flat.profiles.map (·.serverAddr)).Nodup := by
      rw [hflat]
      exact (isProfileSet_workingSet _).distinct
    have hnodup := hflat ▸ nodup_usable_flatProfiles (if full then .full else .pipeOnly) (some text)
    rw [ProfileStore.get?, hprofiles, findProfile?_upsertAll hnodup,
      findProfile?_usable hdistinct, hfirst]
    rfl
  · obtain ⟨hx, -⟩ := importProfiles_failed hd hs ht hf hback hsplit hall hp hrun
    rw [hx] at hdone
    cases hdone

/-- Both servers of the store have their profiles, one of them the one that was imported. -/
theorem imported_first_importTree :
    ∃ store : ProfileStore Disk, importPlace.Reopens importOutcome.2.tree store.profiles ∧
      store.get? "h:1" = some importProfile ∧ store.get? "h" = some (Profile.new "h") := by
  obtain ⟨hreopens, hget⟩ :=
    imported_first (by simp [Disk.IsHonest, Disk.ofTree]) openOn_importTree.2.2.1
      openOn_importTree.1 openOn_importTree.2.2.2 openOn_importTree.2.1 (by decide +kernel)
      readsBack_importTree usable_importTree.2.2.2
  refine ⟨_, hreopens, ?_, ?_⟩
  · rw [hget]
    decide +kernel
  · rw [hget]
    decide +kernel

/-- Two profiles for one server, of which only the second can be used. -/
def laterText : String := "h:1|:1||u|p|0|1|1\nh:1|:1|k|u|p|0|1|1\n"

def laterTree : FileTree := .directory [("o", .file laterText.toUTF8)]

def laterOutcome : Outcome × Disk :=
  importProfiles (some "o") false importPlace (.ofTree laterTree)

/-- A profile that can be used is not imported where the first for its server cannot be used. -/
theorem imported_first_laterTree :
    (∃ p ∈ profilesOfText .pipeOnly laterText, p.serverAddr = "h:1" ∧ p.validate = .ok ()) ∧
      laterOutcome.1.code = 0 ∧ importPlace.Reopens laterOutcome.2.tree [] := by
  refine ⟨⟨importProfile, by decide +kernel, rfl, by decide +kernel⟩, by decide +kernel, ?_⟩
  have ht : (importPlace.storeFile.read (.ofTree laterOutcome.2.tree)).1 = .ok [] :=
    eq_ok_of_toOption (by decide +kernel)
  exact Workplace.reopens_of_read ht (.refl _)

end Imports

end ProxyControl
