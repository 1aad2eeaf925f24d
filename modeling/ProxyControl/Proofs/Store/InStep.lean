import ProxyControl.Command.Workplace
import ProxyControl.Profile.Validation
import ProxyControl.Proofs.Files.Mishaps
import ProxyControl.Proofs.Store.Rewriting

/-!
# Stores in step with their files

A store is in step with its file when a store that is opened on the file anew has the same profiles.
It is when it was opened, and every save that succeeds leaves it so. A save that fails leaves the
store as it was, and the file too, but the directories that were created for it may let the path of
the file lead somewhere else.

## Main definitions

* `InStep`: a store and the file that it is kept in
* `SavedAll`: profiles that were saved one after the other
* `Workplace.Reopens`: what a store has that is opened anew

## Main results

* `InStep.savedAll`: a store is in step with its file after profiles were saved
* `InStep.save_failed`: the file after a save that failed
* `ProfileStore.save_ofTree`: a profile is saved where there is room and the file can be replaced
* `save_again`: a profile that is kept already is saved once more
-/

set_option autoImplicit false

namespace ProxyControl

open Document

/-- A store in step with its file: what a store has that is opened on the file anew. The document of
the file differs from the first one in its profile sections only. -/
structure InStep (file : DocumentFile) (t₀ : Table) (s : ProfileStore Disk) (d : Disk) : Prop where
  backend : s.backend = sectionFile file
  profiles : IsWorkingSet s.profiles
  honest : d.IsHonest
  read : ∃ t, (file.read (.ofTree d.tree)).1 = .ok t ∧
    (∀ l, putProfiles t l = putProfiles t₀ l) ∧
      (ProfileStore.workingSet (profilesOfDocument t)).Perm s.profiles

variable {file : DocumentFile} {t₀ : Table} {s s' : ProfileStore Disk} {d d' : Disk} {p : Profile}

/-- A profile that can be used has a server. -/
theorem Profile.serverAddr_ne_of_validate (h : p.validate = .ok ()) : p.serverAddr ≠ "" := by
  intro hs
  have hblank : Text.isBlankText p.serverAddr = true := by rw [hs]; rfl
  simp [validate, requiredFields, hblank] at h

/-- A document into which a working set was put is that of a store in step with it. -/
theorem perm_workingSet_putProfiles (t : Table) {profiles : List Profile}
    (h : IsWorkingSet profiles) :
    (ProfileStore.workingSet (profilesOfDocument (putProfiles t profiles))).Perm profiles := by
  obtain ⟨hperm, -⟩ := profilesOfDocument_putProfiles t h.distinct h.named
  rw [(h.of_perm hperm).workingSet_eq]
  exact hperm

/-- A store that was opened is in step with its file. -/
theorem inStep_of_openOn (hd : d.IsHonest)
    (h : ProfileStore.openOn (sectionFile file) d = (.ok s, d')) {t : Table}
    (ht : (file.read d).1 = .ok t) : InStep file t s d' := by
  obtain ⟨t', hr, rfl⟩ := ProfileStore.exists_read_of_openOn h
  cases ht.symm.trans (congrArg Prod.fst hr)
  have htree := congrArg Disk.tree (file.read_disk d)
  have hfaults := file.faults_read d
  rw [hr] at htree hfaults
  refine ⟨rfl, isWorkingSet_workingSet fun p => serverAddr_ne_of_mem_profilesOfDocument,
    hd.of_suffix hfaults, t, ?_, fun _ => rfl, .refl _⟩
  rw [htree]
  exact DocumentFile.read_of_isHonest hd ht

/-- A profile that is saved is upserted, and the store is in step with its file again. -/
theorem InStep.save (h : InStep file t₀ s d) (hp : p.serverAddr ≠ "")
    (hf : file.format.ReadsBack (putProfiles t₀ (upsert p s.profiles)))
    (hs : s.save p d = (.ok (), s', d')) :
    InStep file t₀ s' d' ∧ s'.profiles = upsert p s.profiles ∧
      FileTree.Replaced file.path d.tree d'.tree ∧ d'.tree.read? file.path =
        .ok (file.format.write (putProfiles t₀ s'.profiles)).toUTF8 := by
  obtain ⟨t, hr, hbase, -⟩ := h.read
  obtain ⟨rfl, hhonest, d₁, htree, hw⟩ := ProfileStore.save_done h.backend h.honest hr hs
  obtain ⟨hroom, -⟩ := ProfileStore.save_ok hs
  have hnext := h.profiles.upsert hp hroom
  rw [hbase] at hw
  have hbytes := Disk.read?_of_writeAtomic hw
  have hread := DocumentFile.read_ofTree hf hbytes
  have hreplaced := Disk.replaced_of_writeAtomic hw
  rw [htree] at hreplaced
  refine ⟨⟨h.backend, hnext, hhonest, _, hread, fun l => ?_, ?_⟩, rfl, hreplaced, hbytes⟩
  · exact putProfiles_putProfiles t₀ _ l
  · exact perm_workingSet_putProfiles t₀ hnext

/-- Profiles that were saved one after the other. -/
inductive SavedAll : ProfileStore Disk → Disk → List Profile → ProfileStore Disk → Disk → Prop
  | nil (s : ProfileStore Disk) (d : Disk) : SavedAll s d [] s d
  | cons {s s₁ s₂ : ProfileStore Disk} {d d₁ d₂ : Disk} {p : Profile} {rest : List Profile}
    (head : s.save p d = (.ok (), s₁, d₁)) (tail : SavedAll s₁ d₁ rest s₂ d₂) :
    SavedAll s d (p :: rest) s₂ d₂

theorem SavedAll.profiles_eq {saved : List Profile} (hs : SavedAll s d saved s' d') :
    s'.profiles = upsertAll saved s.profiles := by
  induction hs with
  | nil s d => rfl
  | @cons s s₁ s₂ d d₁ d₂ p rest head tail ih =>
    obtain ⟨-, hcommit⟩ := ProfileStore.save_ok head
    have hfirst : s₁.profiles = upsert p s.profiles := by
      rcases ProfileStore.commit_cases rfl (upsert p s.profiles) d with
        ⟨_, -, hdone⟩ | ⟨_, _, -, hfailed⟩
      · cases hcommit.symm.trans hdone
        rfl
      · cases hcommit.symm.trans hfailed
    rw [ih, hfirst]
    rfl

/-- Profiles that are saved one after the other are upserted in their order, and the store is in
step with its file after each of them. -/
theorem InStep.savedAll (h : InStep file t₀ s d) {saved : List Profile}
    (hp : ∀ p ∈ saved, p.serverAddr ≠ "")
    (hf : ∀ l, l <+: saved → l ≠ [] →
      file.format.ReadsBack (putProfiles t₀ (upsertAll l s.profiles)))
    (hs : SavedAll s d saved s' d') :
    InStep file t₀ s' d' ∧ s'.profiles = upsertAll saved s.profiles ∧
      (saved ≠ [] → FileTree.Replaced file.path d.tree d'.tree ∧ d'.tree.read? file.path =
        .ok (file.format.write (putProfiles t₀ s'.profiles)).toUTF8) := by
  induction hs with
  | nil s d => exact ⟨h, rfl, fun hne => absurd rfl hne⟩
  | @cons s s₁ s₂ d d₁ d₂ p rest head tail ih =>
    have hfirst := hf [p] ⟨rest, rfl⟩ (List.cons_ne_nil _ _)
    obtain ⟨h₁, hprofiles, hreplaced, hbytes⟩ := h.save (hp p List.mem_cons_self) hfirst head
    have hlater : ∀ l, l <+: rest → l ≠ [] →
        file.format.ReadsBack (putProfiles t₀ (upsertAll l s₁.profiles)) := by
      intro l hl _
      rw [hprofiles]
      exact hf (p :: l) ((List.prefix_cons_inj p).2 hl) (List.cons_ne_nil _ _)
    obtain ⟨h₂, hprofiles', hrest⟩ := ih h₁ (fun q hq => hp q (List.mem_cons_of_mem p hq)) hlater
    refine ⟨h₂, ?_, fun _ => ?_⟩
    · rw [hprofiles', hprofiles]
      rfl
    · cases rest with
      | nil =>
        cases tail
        exact ⟨hreplaced, hbytes⟩
      | cons q rest =>
        obtain ⟨hreplaced', hbytes'⟩ := hrest (List.cons_ne_nil _ _)
        exact ⟨hreplaced.trans hreplaced', hbytes'⟩

/-- A save that fails leaves the store in step with its file, if the path of the file leads
somewhere already or does not go up. -/
theorem InStep.save_failed (h : InStep file t₀ s d) {base name : String} (hname : IsPlainName name)
    (hpath : file.path.shown = joinPath base name)
    (hway : (∃ x, d.tree.locate file.path = .ok x) ∨ file.path.IsStraight) {e : StoreError}
    (hs : s.save p d = (.error e, s', d')) :
    (file.read (.ofTree d'.tree)).1 = (file.read (.ofTree d.tree)).1 := by
  obtain ⟨-, htree | ⟨d₁, bytes, e', htree, hw⟩⟩ := ProfileStore.save_failed h.backend hs
  · rw [htree]
  · obtain ⟨hlocated, hstraight⟩ := Disk.read?_of_writeAtomic_error hname hpath hw
    rw [htree] at hlocated hstraight
    refine DocumentFile.read_congr ?_
    obtain ⟨t, hr, -⟩ := h.read
    rcases hway with ⟨x, hx⟩ | hway
    · exact hlocated x hx
    · rcases DocumentFile.read_cases hr with ⟨hnone, -⟩ | ⟨bytes', hb⟩
      · rw [hnone]
        exact hstraight hway hnone
      · obtain ⟨x, hx, -⟩ := FileTree.read?_iff.1 hb
        exact hlocated x hx

/-- The path of a store with profiles leads to its file. -/
theorem InStep.exists_locate (h : InStep file t₀ s d) (hp : p ∈ s.profiles) :
    ∃ y, d.tree.locate file.path = .ok y := by
  obtain ⟨t, hr, -, hperm⟩ := h.read
  rcases DocumentFile.read_cases hr with ⟨-, rfl⟩ | ⟨bytes, hb⟩
  · cases hperm.mem_iff.2 hp
  · obtain ⟨y, hy, -⟩ := FileTree.read?_iff.1 hb
    exact ⟨y, hy⟩

/-- A store that is opened anew has the profiles, in some order. -/
def Workplace.Reopens (w : Workplace) (tree : FileTree) (profiles : List Profile) : Prop :=
  ∃ found, (ProfileStore.openOn w.backend (.ofTree tree)).1 = .ok ⟨w.backend, found⟩ ∧
    found.Perm profiles

/-- A store is opened with the working set of the document. -/
theorem Workplace.openOn_ofTree {w : Workplace} {tree : FileTree} {t : Table}
    (ht : (w.storeFile.read (.ofTree tree)).1 = .ok t) :
    ProfileStore.openOn w.backend (.ofTree tree) =
      (.ok ⟨w.backend, ProfileStore.workingSet (profilesOfDocument t)⟩, .ofTree tree) :=
  (ProfileStore.openOn_sectionFile ht).trans
    (congrArg (Prod.mk _) (w.storeFile.read_disk (.ofTree tree)))

theorem Workplace.reopens_of_read {w : Workplace} {tree : FileTree} {t : Table}
    {profiles : List Profile} (ht : (w.storeFile.read (.ofTree tree)).1 = .ok t)
    (hp : (ProfileStore.workingSet (profilesOfDocument t)).Perm profiles) :
    w.Reopens tree profiles :=
  ⟨_, congrArg Prod.fst (openOn_ofTree ht), hp⟩

theorem InStep.reopens {w : Workplace} {tree : FileTree} (h : InStep w.storeFile t₀ s d)
    (hr : (w.storeFile.read (.ofTree tree)).1 = (w.storeFile.read (.ofTree d.tree)).1) :
    w.Reopens tree s.profiles := by
  obtain ⟨t, ht, -, hperm⟩ := h.read
  exact Workplace.reopens_of_read (hr.trans ht) hperm

/-- A profile is saved where there is room for it and the file can be replaced. -/
theorem ProfileStore.save_ofTree {tree : FileTree} {t : Table} (hb : s.backend = sectionFile file)
    (hr : (file.read (.ofTree tree)).1 = .ok t)
    (hroom : findProfile? s.profiles p.serverAddr = none → s.profiles.length < maxProfiles)
    (hw : tree.Replaceable file.path)
    (hf : file.format.ReadsBack (putProfiles t (upsert p s.profiles))) :
    ∃ tree', s.save p (.ofTree tree) =
        (.ok (), { s with profiles := upsert p s.profiles }, .ofTree tree') ∧
      (file.read (.ofTree tree')).1 = .ok (putProfiles t (upsert p s.profiles)) ∧
        tree'.Replaceable file.path := by
  obtain ⟨tree', hwrite, hread, hw'⟩ := DocumentFile.write_ofTree hw hf
  refine ⟨tree', ?_, hread, hw'⟩
  have hfits : ((s.get? p.serverAddr).isNone && decide (maxProfiles ≤ s.profiles.length)) =
      false := by
    cases hp : findProfile? s.profiles p.serverAddr with
    | none => simp [ProfileStore.get?, hp, hroom hp]
    | some q => simp [ProfileStore.get?, hp]
  have hwritten : s.backend.writeAll (upsert p s.profiles) (.ofTree tree) =
      (.ok (), .ofTree tree') := by
    rw [hb]
    simp only [sectionFile, DocumentFile.read_ofTree_eq hr, hwrite]
  rw [ProfileStore.save, hfits, if_neg Bool.false_ne_true, ProfileStore.commit, hwritten]

/-- A profile that is kept already is saved once more: nothing changes in the document. -/
theorem save_again {tree : FileTree} {t : Table} (hb : s.backend = sectionFile file)
    (hr : (file.read (.ofTree tree)).1 = .ok t) (hp : findProfile? s.profiles p.serverAddr = some p)
    (hw : tree.Replaceable file.path) (ht : putProfiles t s.profiles = t)
    (hf : file.format.ReadsBack t) :
    ∃ tree', s.save p (.ofTree tree) = (.ok (), s, .ofTree tree') ∧
      (file.read (.ofTree tree')).1 = .ok t ∧ tree'.Replaceable file.path := by
  have hsame := upsert_eq_self hp
  have hput : putProfiles t (upsert p s.profiles) = t := by rw [hsame, ht]
  have hsave := ProfileStore.save_ofTree hb hr (fun hn => nomatch hn.symm.trans hp) hw
    (hput.symm ▸ hf)
  rwa [hput, hsame] at hsave

end ProxyControl
