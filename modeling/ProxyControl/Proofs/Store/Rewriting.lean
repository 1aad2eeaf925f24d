import ProxyControl.Proofs.Files.Surroundings
import ProxyControl.Proofs.Store.OrderedMap
import ProxyControl.Proofs.Store.SharedFile

/-!
# Profiles saved one after the other

Each save writes all profile sections anew in place of those that were there, and leaves the other
sections alone. So after some saves the document is the first one with the sections of the last
working set, in whatever order its profiles stand; and a profile that is saved as it is already kept
leaves the document as it was.

## Main definitions

* `upsertAll`: profiles saved one after the other

## Main results

* `putProfiles_putProfiles`, `putProfiles_perm`: a document after its profiles were put twice
* `findProfile?_upsertAll`: the profiles after some were saved
* `ProfileStore.save_done`, `ProfileStore.save_failed`: what a save leaves in the file
-/

set_option autoImplicit false

namespace ProxyControl

open Document

/-! ## Documents -/

theorem Document.Table.keep_put {p : String → Bool} {name : String} (h : p name = false) (t : Table)
    (value : Value) : (t.put name value).keep p = t.keep p := by
  have hput (t : Table) : Table.keep p ((name, value) :: t) = t.keep p := by
    simp [keep, h]
  induction t with
  | nil => exact hput []
  | cons e t ih =>
    obtain ⟨k, w⟩ := e
    have hcons (u : Table) : Table.keep p ((k, w) :: u) = if p k then (k, w) :: u.keep p
        else u.keep p := by
      simp [keep, List.filter_cons]
    rw [put]
    split
    · next hk =>
      subst hk
      rw [hput, hcons, if_neg (by simp [h])]
    · split
      · exact hput _
      · rw [hcons, ih, hcons]

theorem Document.Table.put_comm_of_lt {a b : String} (hab : a < b) (t : Table) (v w : Value) :
    (t.put a v).put b w = (t.put b w).put a v := by
  have hba := String.lt_asymm hab
  have hne : a ≠ b := fun h => String.lt_irrefl b (h ▸ hab)
  induction t with
  | nil => simp [put, hne, hne.symm, hab, hba]
  | cons e t ih =>
    obtain ⟨k, u⟩ := e
    by_cases hak : a = k
    · subst hak
      simp [put, hne.symm, hba]
    · by_cases hlt : a < k
      · by_cases hbk : b = k
        · subst hbk
          simp [put, hne, hne.symm, hab, hba]
        · by_cases hlt' : b < k
          · simp [put, hne, hne.symm, hak, hbk, hab, hba, hlt, hlt']
          · simp [put, hne.symm, hak, hbk, hba, hlt, hlt']
      · have hka : k < a := Std.lt_of_le_of_ne (String.not_lt.1 hlt) (Ne.symm hak)
        have hkb := String.lt_trans hka hab
        have hbk : b ≠ k := fun h => String.lt_irrefl b (h ▸ hkb)
        simp [put, hak, hlt, hbk, String.lt_asymm hkb, ih]

/-- Two names can be written in either order. -/
theorem Document.Table.put_comm {a b : String} (hab : a ≠ b) (t : Table) (v w : Value) :
    (t.put a v).put b w = (t.put b w).put a v := by
  by_cases hlt : a < b
  · exact put_comm_of_lt hlt t v w
  · have hlt' : b < a := Std.lt_of_le_of_ne (String.not_lt.1 hlt) (Ne.symm hab)
    exact (put_comm_of_lt hlt' t w v).symm

theorem keep_putProfiles (t : Table) (profiles : List Profile) :
    (putProfiles t profiles).keep (fun name => !isProfileSection name) =
      t.keep fun name => !isProfileSection name := by
  have hfold (u : Table) : Table.keep (fun name => !isProfileSection name)
      (profiles.foldl (fun t p => t.put p.entry.1 p.entry.2) u) =
        u.keep fun name => !isProfileSection name := by
    induction profiles generalizing u with
    | nil => rfl
    | cons p profiles ih =>
      rw [List.foldl_cons, ih, Table.keep_put]
      rw [Profile.entry, isProfileSection_sectionName]
      rfl
  refine (hfold _).trans ?_
  simp [Table.keep]

/-- **Profiles that are put take the place of those that were put before.** -/
theorem putProfiles_putProfiles (t : Table) (before after : List Profile) :
    putProfiles (putProfiles t before) after = putProfiles t after := by
  have h := keep_putProfiles t before
  rw [putProfiles, h, ← putProfiles]

/-- **The order in which profiles are put does not matter**, if they are for different servers. -/
theorem putProfiles_perm (t : Table) {profiles others : List Profile} (h : profiles.Perm others)
    (hd : (profiles.map (·.serverAddr)).Nodup) : putProfiles t profiles = putProfiles t others := by
  unfold putProfiles
  refine h.foldl_eq' ?_ _
  intro p hp q hq u
  by_cases hpq : p = q
  · rw [hpq]
  · refine Table.put_comm (fun hname => hpq ?_) u _ _
    have hserver := sectionName_inj hname
    have hfound := findProfile?_of_mem hd hp
    rw [hserver, findProfile?_of_mem hd hq] at hfound
    exact (Option.some.inj hfound).symm

/-! ## Working sets -/

/-- Profiles saved one after the other. -/
def upsertAll (profiles saved : List Profile) : List Profile :=
  profiles.foldl (fun l p => upsert p l) saved

/-- A profile that is kept already is saved in its own place. -/
theorem upsert_eq_self {p : Profile} {profiles : List Profile}
    (h : findProfile? profiles p.serverAddr = some p) : upsert p profiles = profiles := by
  induction profiles with
  | nil => cases h
  | cons q profiles ih =>
    rw [findProfile?_cons] at h
    rw [upsert]
    split at h
    · next hq =>
      rw [if_pos hq]
      cases h
      rfl
    · next hq => rw [if_neg hq, ih h]

/-- The profile of a server after some were saved: the one of them for the server, or the one that
there was. -/
theorem findProfile?_upsertAll {profiles : List Profile}
    (hd : (profiles.map (·.serverAddr)).Nodup) (saved : List Profile) (server : String) :
    findProfile? (upsertAll profiles saved) server =
      (findProfile? profiles server).or (findProfile? saved server) := by
  induction profiles generalizing saved with
  | nil => rfl
  | cons p profiles ih =>
    obtain ⟨hp, hd⟩ := List.nodup_cons.1 hd
    have hrest := ih hd (upsert p saved)
    rw [findProfile?_upsert] at hrest
    rw [findProfile?_cons]
    refine hrest.trans ?_
    by_cases hs : server = p.serverAddr
    · subst hs
      rw [(findProfile?_eq_none_iff _ _).2 hp, if_pos rfl, if_pos rfl]
      rfl
    · rw [if_neg hs, if_neg (Ne.symm hs)]

theorem mem_of_findProfile?_eq_some {profiles : List Profile} {server : String} {p : Profile}
    (h : findProfile? profiles server = some p) : p ∈ profiles ∧ p.serverAddr = server := by
  unfold findProfile? at h
  exact ⟨List.mem_of_find?_eq_some h, by simpa using List.find?_some h⟩

theorem findProfile?_perm {profiles others : List Profile} (h : profiles.Perm others)
    (hd : (profiles.map (·.serverAddr)).Nodup) (server : String) :
    findProfile? profiles server = findProfile? others server := by
  have hd' : (others.map (·.serverAddr)).Nodup := (h.map _).nodup_iff.1 hd
  cases hf : findProfile? profiles server with
  | none =>
    rw [findProfile?_eq_none_iff, (h.map (·.serverAddr)).mem_iff,
      ← findProfile?_eq_none_iff] at hf
    exact hf.symm
  | some p =>
    obtain ⟨hp, rfl⟩ := mem_of_findProfile?_eq_some hf
    rw [findProfile?_of_mem hd' (h.mem_iff.1 hp)]

/-! ## Reads -/

namespace DocumentFile

variable {path : FilePath} {file : DocumentFile}

/-- A text is read from the bytes of its file, where no fault hides the file. -/
theorem readText_of_isHonest {d d' : Disk} {r : Option String} (hd : d.IsHonest)
    (h : readText path d = (.ok r, d')) :
    (readText path (.ofTree d.tree)).1 = .ok r ∧ d' = ⟨d.tree, d.faults.tail⟩ := by
  have ht : Disk.read path (.ofTree d.tree) = (d.tree.read? path, .ofTree d.tree) := rfl
  unfold readText at h ⊢
  rw [ht]
  cases hf : d.faults.head?.getD none with
  | some f =>
    have hc : d.read path = (.error f.error, ⟨d.tree, d.faults.tail⟩) := by
      simp only [Disk.read, Disk.step, hf]
    have hne : f.error ≠ .notFound := by
      refine hd f ?_
      cases hl : d.faults with
      | nil => simp [hl] at hf
      | cons g faults =>
        rw [hl] at hf
        obtain rfl : g = some f := hf
        exact List.mem_cons_self
    rw [hc] at h
    simp [hne] at h
  | none =>
    have hc : d.read path = (d.tree.read? path, ⟨d.tree, d.faults.tail⟩) := by
      simp only [Disk.read, Disk.step, hf]
    rw [hc] at h
    cases hb : d.tree.read? path with
    | error e =>
      rw [hb] at h
      by_cases he : e = .notFound
      · simp [he] at h ⊢
        exact ⟨h.1, h.2.symm⟩
      · simp [he] at h
    | ok bytes =>
      rw [hb] at h
      cases hu : String.fromUTF8? bytes with
      | none => simp [hu] at h
      | some text =>
        simp [hu] at h ⊢
        exact ⟨h.1, h.2.symm⟩

/-- A text that is read is that of a file, or none where there is no file. -/
theorem readText_cases {r : Option String} {tree : FileTree}
    (h : (readText path (.ofTree tree)).1 = .ok r) :
    tree.read? path = .error .notFound ∧ r = none ∨ ∃ bytes, tree.read? path = .ok bytes := by
  have ht : Disk.read path (.ofTree tree) = (tree.read? path, .ofTree tree) := rfl
  unfold readText at h
  rw [ht] at h
  cases hb : tree.read? path with
  | ok bytes => exact .inr ⟨bytes, rfl⟩
  | error e =>
    rw [hb] at h
    by_cases he : e = .notFound
    · subst he
      exact .inl ⟨rfl, (Except.ok.inj h).symm⟩
    · simp [he] at h

/-- A text is read from the bytes of its file alone. -/
theorem readText_congr {t u : FileTree} (h : u.read? path = t.read? path) :
    (readText path (.ofTree u)).1 = (readText path (.ofTree t)).1 ∧
      (readText path (.ofTree u)).2 = .ofTree u := by
  have ht : Disk.read path (.ofTree t) = (t.read? path, .ofTree t) := rfl
  have hu : Disk.read path (.ofTree u) = (u.read? path, .ofTree u) := rfl
  unfold readText
  rw [ht, hu, h]
  cases t.read? path with
  | error e => by_cases he : e = .notFound <;> simp [he]
  | ok bytes => cases hb : String.fromUTF8? bytes <;> simp [hb]

/-- A document is read from the text of its file alone. -/
theorem read_congr {t u : FileTree} (h : u.read? file.path = t.read? file.path) :
    (file.read (.ofTree u)).1 = (file.read (.ofTree t)).1 := by
  have hread := (readText_congr h).1
  unfold read
  rcases hu : readText file.path (.ofTree u) with ⟨a, d⟩
  rcases ht : readText file.path (.ofTree t) with ⟨b, e⟩
  rw [hu, ht] at hread
  obtain rfl : a = b := hread
  rcases a with e | _ | text
  · rfl
  · rfl
  · dsimp only
    split <;> rfl

theorem read_ofTree_eq {tree : FileTree} {t : Table} (h : (file.read (.ofTree tree)).1 = .ok t) :
    file.read (.ofTree tree) = (.ok t, .ofTree tree) :=
  Prod.ext h (file.read_disk (.ofTree tree))

/-- A document that is read is that of a file, or the empty one where there is no file. -/
theorem read_cases {tree : FileTree} {t : Table} (h : (file.read (.ofTree tree)).1 = .ok t) :
    tree.read? file.path = .error .notFound ∧ t = [] ∨
      ∃ bytes, tree.read? file.path = .ok bytes := by
  unfold read at h
  rcases hr : readText file.path (.ofTree tree) with ⟨e | r, d⟩
  · simp [hr] at h
  · rcases readText_cases (congrArg Prod.fst hr) with ⟨hnone, rfl⟩ | hb
    · rw [hr] at h
      exact .inl ⟨hnone, (Except.ok.inj h).symm⟩
    · exact .inr hb

/-- A document that is written where a file can be replaced is read back. -/
theorem write_ofTree {tree : FileTree} {t : Table} (hw : tree.Replaceable file.path)
    (hf : file.format.ReadsBack t) :
    ∃ tree', file.write t (.ofTree tree) = (.ok (), .ofTree tree') ∧
      (file.read (.ofTree tree')).1 = .ok t ∧ tree'.Replaceable file.path := by
  have hdone := hw (file.format.write t).toUTF8
  have hfaults := Disk.faults_writeAtomic file.path (file.format.write t).toUTF8 (.ofTree tree)
  rcases hwrite : (Disk.ofTree tree).writeAtomic file.path (file.format.write t).toUTF8 with
    ⟨answer, d⟩
  rw [hwrite] at hdone hfaults
  obtain rfl : answer = .ok () := hdone
  obtain ⟨tree', faults⟩ := d
  obtain rfl : faults = [] := List.suffix_nil.1 hfaults
  exact ⟨tree', hwrite, read_ofTree hf (Disk.read?_of_writeAtomic hwrite),
    Disk.replaceable_of_writeAtomic hwrite⟩

end DocumentFile

/-! ## Saves -/

namespace ProfileStore

variable {file : DocumentFile} {s s' : ProfileStore Disk} {d d' : Disk} {p : Profile} {t : Table}

theorem faults_save (hs : s.backend = sectionFile file) (p : Profile) (d : Disk) :
    (s.save p d).2.2.faults <:+ d.faults := by
  rw [save]
  split
  · exact List.suffix_rfl
  · exact faults_commit hs _ d

/-- What a save does that succeeds: it writes the working set in place of the sections that the
document had. -/
theorem save_done (hs : s.backend = sectionFile file) (hd : d.IsHonest)
    (hr : (file.read (.ofTree d.tree)).1 = .ok t) (h : s.save p d = (.ok (), s', d')) :
    s' = { s with profiles := upsert p s.profiles } ∧ d'.IsHonest ∧ ∃ d₁, d₁.tree = d.tree ∧
      file.write (putProfiles t (upsert p s.profiles)) d₁ = (.ok (), d') := by
  have hfaults := faults_save hs p d
  rw [h] at hfaults
  obtain ⟨-, hc⟩ := save_ok h
  unfold commit at hc
  rw [hs] at hc
  rcases hread : file.read d with ⟨_ | u, d₁⟩
  · simp [sectionFile, hread] at hc
  · obtain rfl : u = t := by
      have hu := DocumentFile.read_of_isHonest hd (congrArg Prod.fst hread)
      exact Except.ok.inj (hu.symm.trans hr)
    have htree := congrArg Disk.tree (file.read_disk d)
    rw [hread] at htree
    rcases hw : file.write (putProfiles u (upsert p s.profiles)) d₁ with ⟨_ | _, d₂⟩
    · simp [sectionFile, hread, hw] at hc
    · simp only [sectionFile, hread, hw] at hc
      obtain ⟨-, hs', rfl⟩ := Prod.mk.inj hc |>.imp_right Prod.mk.inj
      refine ⟨?_, hd.of_suffix hfaults, d₁, htree, hw⟩
      rw [← hs', hs]
      rfl

/-- What a save leaves that fails: the store as it was, and a file that was not written, or that
could not be replaced. -/
theorem save_failed (hs : s.backend = sectionFile file) {e : StoreError}
    (h : s.save p d = (.error e, s', d')) :
    s' = s ∧ (d'.tree = d.tree ∨
      ∃ (d₁ : Disk) (bytes : ByteArray) (e' : StoreError), d₁.tree = d.tree ∧
        d₁.writeAtomic file.path bytes = (.error e', d')) := by
  unfold save at h
  split at h
  · obtain ⟨-, rfl, rfl⟩ := Prod.mk.inj h |>.imp_right Prod.mk.inj
    exact ⟨rfl, .inl rfl⟩
  · unfold commit at h
    rw [hs] at h
    have htree := congrArg Disk.tree (file.read_disk d)
    rcases hread : file.read d with ⟨_ | u, d₁⟩ <;> rw [hread] at htree
    · simp only [sectionFile, hread] at h
      obtain ⟨-, rfl, rfl⟩ := Prod.mk.inj h |>.imp_right Prod.mk.inj
      exact ⟨rfl, .inl htree⟩
    · rcases hw : file.write (putProfiles u (upsert p s.profiles)) d₁ with ⟨e' | _, d₂⟩
      · simp only [sectionFile, hread, hw] at h
        obtain ⟨-, rfl, rfl⟩ := Prod.mk.inj h |>.imp_right Prod.mk.inj
        exact ⟨rfl, .inr ⟨d₁, _, e', htree, hw⟩⟩
      · simp [sectionFile, hread, hw] at h

end ProfileStore

end ProxyControl
