import ProxyControl.Proofs.Files.Replacement
import ProxyControl.Proofs.Store.Sections
import ProxyControl.Proofs.Store.WorkingSet
import ProxyControl.Proofs.Text.ByteLines

/-!
# Persistence of the saved profiles

A store that is opened anew on the file of another store has the working set of that store, after
all calls that succeeded. Of the format of the file it is needed only that the documents which the
calls print read back. The first call that writes puts the profiles into the order of their
addresses; until then both stores have them in the order of the sections in the file, which the
address of a profile need not follow where sections were written by hand.

## Main definitions

* `StoreCall`: a call that changes a store
* `StoreHistory`: a store with its disk after some calls, and the documents that they printed
* `StoreHistory.Persists`: what the file holds

## Main results

* `StoreHistory.reopened`: what a store has that is opened anew
-/

set_option autoImplicit false

namespace ProxyControl

open Document

/-! ## Documents in files -/

namespace DocumentFile

variable {file : DocumentFile} {tree : FileTree}

/-- A read that is not cut short has the answer that the tree has. -/
theorem read_none_cons (file : DocumentFile) (tree : FileTree) (faults : List (Option Fault)) :
    file.read ⟨tree, none :: faults⟩ = ((file.read (.ofTree tree)).1, ⟨tree, faults⟩) := by
  have hc : Disk.read file.path ⟨tree, none :: faults⟩ = (tree.read? file.path, ⟨tree, faults⟩) :=
    rfl
  have ht : Disk.read file.path (.ofTree tree) = (tree.read? file.path, .ofTree tree) := rfl
  unfold read readText
  rw [hc, ht]
  cases tree.read? file.path with
  | error e => by_cases h : e = .notFound <;> simp [h]
  | ok bytes =>
    cases hu : String.fromUTF8? bytes with
    | none => simp [hu]
    | some text => cases hf : file.format.read text <;> simp [hu, hf]

/-- A document is read from the bytes of its text. -/
theorem read_ofTree {t : Table} (ht : file.format.ReadsBack t)
    (hb : tree.read? file.path = .ok (file.format.write t).toUTF8) :
    (file.read (.ofTree tree)).1 = .ok t := by
  have hr : Disk.read file.path (.ofTree tree) = (tree.read? file.path, .ofTree tree) := rfl
  have hf : file.format.read (file.format.write t) = .ok t := ht
  simp only [read, readText, hr, hb, Text.decode_encode, hf]

end DocumentFile

/-! ## Stores on files with sections -/

namespace ProfileStore

variable {file : DocumentFile} {s s' : ProfileStore Disk} {d d' : Disk}

/-- A store is opened with the working set of the document that is read. -/
theorem openOn_sectionFile {t : Table} (h : (file.read d).1 = .ok t) :
    openOn (sectionFile file) d =
      (.ok ⟨sectionFile file, workingSet (profilesOfDocument t)⟩, (file.read d).2) := by
  rcases hr : file.read d with ⟨_ | _, _⟩ <;> rw [hr] at h <;> cases h
  simp [openOn, load, ofBackend, sectionFile, hr]

/-- A store that is opened has read a document. -/
theorem exists_read_of_openOn (h : openOn (sectionFile file) d = (.ok s, d')) :
    ∃ t, file.read d = (.ok t, d') ∧
      s = ⟨sectionFile file, workingSet (profilesOfDocument t)⟩ := by
  rcases hr : file.read d with ⟨_ | t, d₁⟩
  · simp [openOn, load, ofBackend, sectionFile, hr] at h
  · rw [openOn_sectionFile (congrArg Prod.fst hr), hr] at h
    cases h
    exact ⟨t, rfl, rfl⟩

/-- A working set that is kept has taken the place of the profile sections in the file. -/
theorem exists_read_of_commit {next : List Profile} (hs : s.backend = sectionFile file)
    (h : s.commit next d = (.ok (), s', d')) :
    s' = { s with profiles := next } ∧ ∃ t, (file.read d).1 = .ok t ∧
      d'.tree.read? file.path = .ok (file.format.write (putProfiles t next)).toUTF8 := by
  unfold commit at h
  rw [hs] at h
  rcases hr : file.read d with ⟨_ | t, d₁⟩
  · simp [sectionFile, hr] at h
  · rcases hw : file.write (putProfiles t next) d₁ with ⟨_ | _, d₂⟩
    · simp [sectionFile, hr, hw] at h
    · simp only [sectionFile, hr, hw] at h
      obtain ⟨-, hs', rfl⟩ := Prod.mk.inj h |>.imp_right Prod.mk.inj
      exact ⟨by rw [← hs', hs]; rfl, t, rfl, Disk.read?_of_writeAtomic hw⟩

/-- A profile that was saved had room, and is kept with the others. -/
theorem save_ok {p : Profile} (h : s.save p d = (.ok (), s', d')) :
    (findProfile? s.profiles p.serverAddr = none → s.profiles.length < maxProfiles) ∧
      s.commit (upsert p s.profiles) d = (.ok (), s', d') := by
  unfold save at h
  split at h
  · cases h
  · next hroom =>
    refine ⟨fun hf => ?_, h⟩
    simpa [get?, hf] using hroom

/-- Where there was a profile to delete, the others are kept; else nothing is changed. -/
theorem delete_ok {server : String} {removed : Option Profile}
    (h : s.delete server d = (.ok removed, s', d')) :
    (findProfile? s.profiles server = none ∧ s' = s ∧ d' = d) ∨
      ∃ p, findProfile? s.profiles server = some p ∧
        s.commit (removeServer server s.profiles) d = (.ok (), s', d') := by
  unfold delete get? at h
  cases hf : findProfile? s.profiles server with
  | none =>
    rw [hf] at h
    cases h
    exact .inl ⟨rfl, rfl, rfl⟩
  | some p =>
    rcases hc : s.commit (removeServer server s.profiles) d with ⟨_ | _, s₁, d₁⟩ <;>
      simp only [hf, hc] at h
    · cases h
    · cases h
      exact .inr ⟨p, rfl, rfl⟩

end ProfileStore

/-! ## Calls -/

/-- A call that changes a store. -/
inductive StoreCall
  /-- A profile is saved. -/
  | save (p : Profile)
  /-- The profile for a server is deleted. -/
  | delete (server : String)

namespace StoreCall

/-- Only a profile with a server is saved. -/
def IsNamed : StoreCall → Prop
  | save p => p.serverAddr ≠ ""
  | delete _ => True

/-- The working set that a call writes, if it writes one. -/
def next? (profiles : List Profile) : StoreCall → Option (List Profile)
  | save p => some (upsert p profiles)
  | delete server => (findProfile? profiles server).map fun _ => removeServer server profiles

/-- The document that a call prints, if it prints one. -/
def printed? (file : DocumentFile) (s : ProfileStore Disk) (d : Disk) (c : StoreCall) :
    Option Table := do
  let next ← c.next? s.profiles
  let t ← (file.read d).1.toOption
  return putProfiles t next

/-- What a call gives: whether it succeeds, the store and the disk. -/
def run (s : ProfileStore Disk) (d : Disk) : StoreCall → Bool × ProfileStore Disk × Disk
  | save p =>
    let x := s.save p d
    (x.1.isOk, x.2)
  | delete server =>
    let x := s.delete server d
    (x.1.isOk, x.2)

/-- What a call has done that succeeds: it has kept a working set, or changed nothing. -/
theorem run_ok {c : StoreCall} {s s' : ProfileStore Disk} {d d' : Disk}
    (hs : IsProfileSet s.profiles) (h : c.run s d = (true, s', d')) :
    (c.next? s.profiles = none ∧ s' = s ∧ d' = d) ∨
      ∃ next, c.next? s.profiles = some next ∧ IsProfileSet next ∧
        s.commit next d = (.ok (), s', d') := by
  cases c with
  | save p =>
    rcases hx : s.save p d with ⟨_ | _, s₁, d₁⟩ <;> simp [run, hx, Except.isOk, Except.toBool] at h
    obtain ⟨rfl, rfl⟩ := h
    obtain ⟨hroom, hc⟩ := ProfileStore.save_ok hx
    exact .inr ⟨_, rfl, hs.upsert hroom, hc⟩
  | delete server =>
    rcases hx : s.delete server d with ⟨_ | removed, s₁, d₁⟩ <;>
      simp [run, hx, Except.isOk, Except.toBool] at h
    obtain ⟨rfl, rfl⟩ := h
    rcases ProfileStore.delete_ok hx with ⟨hf, hsame⟩ | ⟨p, hf, hc⟩
    · exact .inl ⟨by simp [next?, hf], hsame⟩
    · exact .inr ⟨_, by simp [next?, hf], hs.removeServer server, hc⟩

/-- Every profile that a call keeps has a server, if it saves none without. -/
theorem named_of_next? {c : StoreCall} (hn : c.IsNamed) {profiles next : List Profile}
    (h : ∀ p ∈ profiles, p.serverAddr ≠ "") (hnext : c.next? profiles = some next) :
    ∀ p ∈ next, p.serverAddr ≠ "" := by
  intro q hq
  cases c with
  | save p =>
    obtain rfl : upsert p profiles = next := by simpa [next?] using hnext
    rcases eq_or_mem_of_mem_upsert hq with rfl | hq
    · exact hn
    · exact h q hq
  | delete server =>
    obtain ⟨p, -, rfl⟩ := Option.map_eq_some_iff.1 hnext
    exact h q ((List.eraseP_sublist ..).mem hq)

end StoreCall

/-! ## Histories -/

/-- A store after some calls, with its disk. -/
structure StoreHistory where
  store : ProfileStore Disk
  disk : Disk
  /-- The documents that the calls printed, the last one first. -/
  documents : List Table
  /-- Every call has succeeded. -/
  succeeded : Bool

namespace StoreHistory

/-- A store before its first call. -/
def opened (s : ProfileStore Disk) (d : Disk) : StoreHistory := ⟨s, d, [], true⟩

/-- One call more. -/
def call (file : DocumentFile) (x : StoreHistory) (c : StoreCall) : StoreHistory :=
  let (succeeded, store, disk) := c.run x.store x.disk
  ⟨store, disk, (c.printed? file x.store x.disk).toList ++ x.documents, succeeded && x.succeeded⟩

/-- All calls in their order. -/
def run (file : DocumentFile) (x : StoreHistory) (calls : List StoreCall) : StoreHistory :=
  calls.foldl (call file) x

variable {file : DocumentFile} {x : StoreHistory}

/-- What the file of a store holds: the document that was printed last, whose profile sections are
those of the working set, or else the document that the store was opened on. -/
structure Persists (file : DocumentFile) (x : StoreHistory) : Prop where
  /-- The profiles are kept in the file. -/
  backend : x.store.backend = sectionFile file
  /-- The profiles are a working set. -/
  profiles : IsWorkingSet x.store.profiles
  /-- Before a document is printed, the file is as it was. -/
  unprinted : x.documents = [] → ∃ t, (file.read (.ofTree x.disk.tree)).1 = .ok t ∧
    ProfileStore.workingSet (profilesOfDocument t) = x.store.profiles
  /-- The file holds the document that was printed last. -/
  printed : ∀ t ∈ x.documents.head?, (∃ t₀, t = putProfiles t₀ x.store.profiles) ∧
    x.disk.tree.read? file.path = .ok (file.format.write t).toUTF8

/-- A store that is opened has what the file holds. -/
theorem persists_opened {s : ProfileStore Disk} {d : Disk} {tree : FileTree}
    {faults : List (Option Fault)}
    (h : ProfileStore.openOn (sectionFile file) ⟨tree, none :: faults⟩ = (.ok s, d)) :
    (opened s d).Persists file := by
  obtain ⟨t, hr, rfl⟩ := ProfileStore.exists_read_of_openOn h
  rw [DocumentFile.read_none_cons] at hr
  obtain ⟨ht, rfl⟩ := Prod.mk.inj hr
  exact
    { backend := rfl
      profiles := isWorkingSet_workingSet fun p => serverAddr_ne_of_mem_profilesOfDocument
      unprinted := fun _ => ⟨t, ht, rfl⟩
      printed := by simp [opened] }

/-- A call that succeeds leaves the working set in the file. -/
theorem Persists.call (h : x.Persists file) {c : StoreCall} (hn : c.IsNamed)
    (hs : (x.call file c).succeeded = true) : (x.call file c).Persists file := by
  rcases hr : c.run x.store x.disk with ⟨succeeded, s', d'⟩
  have hx : x.call file c = ⟨s', d', (c.printed? file x.store x.disk).toList ++ x.documents,
      succeeded && x.succeeded⟩ := by
    rw [StoreHistory.call, hr]
  rw [hx] at hs ⊢
  obtain ⟨rfl, -⟩ := Bool.and_eq_true_iff.1 hs
  rcases StoreCall.run_ok h.profiles.isProfileSet hr with
    ⟨hnext, rfl, rfl⟩ | ⟨next, hnext, hw, hc⟩
  · have hp : c.printed? file x.store x.disk = none := by simp [StoreCall.printed?, hnext]
    rw [hp]
    exact ⟨h.backend, h.profiles, h.unprinted, h.printed⟩
  · obtain ⟨rfl, t, ht, hb⟩ := ProfileStore.exists_read_of_commit h.backend hc
    have hp : c.printed? file x.store x.disk = some (putProfiles t next) := by
      simp [StoreCall.printed?, hnext, ht, Except.toOption]
    rw [hp]
    exact
      { backend := h.backend
        profiles := ⟨hw.distinct, StoreCall.named_of_next? hn h.profiles.named hnext, hw.bounded⟩
        unprinted := by simp
        printed := by
          rintro u hu
          obtain rfl : putProfiles t next = u := by simpa using hu
          exact ⟨⟨t, rfl⟩, hb⟩ }

/-- A history has succeeded only if what came before its last calls has. -/
theorem succeeded_of_run {calls : List StoreCall} (h : (x.run file calls).succeeded = true) :
    x.succeeded = true := by
  induction calls generalizing x with
  | nil => exact h
  | cons c calls ih => exact (Bool.and_eq_true_iff.1 (ih h)).2

/-- Calls that succeed leave the working set in the file. -/
theorem Persists.run (h : x.Persists file) {calls : List StoreCall} (hn : ∀ c ∈ calls, c.IsNamed)
    (hs : (x.run file calls).succeeded = true) : (x.run file calls).Persists file := by
  induction calls generalizing x with
  | nil => exact h
  | cons c calls ih =>
    have hc := h.call (hn c List.mem_cons_self) (succeeded_of_run hs)
    exact ih hc (fun c hc => hn c (List.mem_cons_of_mem _ hc)) hs

/-- **A store that is opened anew has the working set of the store before.** If all calls have
succeeded and the documents that they printed read back, then it has the same profiles, no more and
no fewer. After the first document was printed they are in the order of their addresses, and before
that in the order in which the first store had them. -/
theorem reopened {s : ProfileStore Disk} {d : Disk} {tree : FileTree}
    {faults : List (Option Fault)} {calls : List StoreCall}
    (ho : ProfileStore.openOn (sectionFile file) ⟨tree, none :: faults⟩ = (.ok s, d))
    (hn : ∀ c ∈ calls, c.IsNamed) (hs : ((opened s d).run file calls).succeeded = true)
    (hf : ∀ t ∈ ((opened s d).run file calls).documents, file.format.ReadsBack t) :
    let x := (opened s d).run file calls
    ∃ profiles, (ProfileStore.openOn (sectionFile file) (.ofTree x.disk.tree)).1 =
        .ok ⟨sectionFile file, profiles⟩ ∧
      profiles.Perm x.store.profiles ∧
      (x.documents ≠ [] →
        profiles.Pairwise fun p q => Text.bytes p.serverAddr < Text.bytes q.serverAddr) ∧
      (x.documents = [] → profiles = x.store.profiles) := by
  intro x
  have h : x.Persists file := (persists_opened ho).run hn hs
  cases hd : x.documents with
  | nil =>
    obtain ⟨t, ht, hw⟩ := h.unprinted hd
    refine ⟨x.store.profiles, ?_, .refl _, fun hne => absurd rfl hne, fun _ => rfl⟩
    rw [ProfileStore.openOn_sectionFile ht, hw]
  | cons t documents =>
    -- the file holds the document printed last, which reads back as the sections put into it
    obtain ⟨⟨t₀, rfl⟩, hb⟩ := h.printed t (by simp [hd])
    have hr := DocumentFile.read_ofTree (hf _ (by rw [hd]; exact List.mem_cons_self)) hb
    obtain ⟨hperm, hsorted⟩ :=
      profilesOfDocument_putProfiles t₀ h.profiles.distinct h.profiles.named
    refine ⟨_, ?_, hperm, fun _ => hsorted.imp Text.bytes_lt_of_lt, fun hnil => by simp at hnil⟩
    rw [ProfileStore.openOn_sectionFile hr, (h.profiles.of_perm hperm).workingSet_eq]

/-- A file whose sections are not in the order of their addresses; one has no address but that in
its name, and one repeats an address. -/
def handEdited : FileTree :=
  .directory [("s.toml", .file (
    "[server-a]\nAddress = \"z:1\"\n" ++
    "[\"server-b:1\"]\nKey = \"k\"\n" ++
    "[server-c]\nAddress = \"z:1\"\n").toUTF8)]

/-- The path and the format of the file. -/
def handEditedFile : DocumentFile := ⟨⟨"s.toml", []⟩, .pretty⟩

/-- The document of the file. -/
def handEditedDocument : Table :=
  [("server-a", .table [("Address", .string "z:1")]),
    ("server-b:1", .table [("Key", .string "k")]),
    ("server-c", .table [("Address", .string "z:1")])]

/-- A store that was opened on the file. -/
def handEditedStore : ProfileStore Disk :=
  ⟨sectionFile handEditedFile, ProfileStore.workingSet (profilesOfDocument handEditedDocument)⟩

theorem read_handEdited :
    (handEditedFile.read (.ofTree handEdited)).1 = .ok handEditedDocument :=
  eq_ok_of_toOption (by decide +kernel)

theorem openOn_handEdited (faults : List (Option Fault)) :
    ProfileStore.openOn (sectionFile handEditedFile) ⟨handEdited, none :: faults⟩ =
      (.ok handEditedStore, ⟨handEdited, faults⟩) := by
  have hr := DocumentFile.read_none_cons handEditedFile handEdited faults
  rw [read_handEdited] at hr
  rw [ProfileStore.openOn_sectionFile (congrArg Prod.fst hr), hr]
  rfl

/-- A profile is deleted that there is none of, and another one is saved. -/
def savedHistory : StoreHistory :=
  (opened handEditedStore (.ofTree handEdited)).run handEditedFile
    [.delete "x:1", .save { Profile.new "m:1" with key := "k\n" }]

/-- A profile is deleted that there is none of. -/
def unprintedHistory : StoreHistory :=
  (opened handEditedStore (.ofTree handEdited)).run handEditedFile [.delete "x:1"]

/-- After a profile was saved, a store that is opened anew has the profiles in the order of their
addresses. -/
theorem reopened_savedHistory :
    savedHistory.store.profiles.map (·.serverAddr) = ["z:1", "b:1", "m:1"] ∧
      ∃ profiles, (ProfileStore.openOn (sectionFile handEditedFile)
          (.ofTree savedHistory.disk.tree)).1 = .ok ⟨sectionFile handEditedFile, profiles⟩ ∧
        profiles.Perm savedHistory.store.profiles ∧
        (savedHistory.documents ≠ [] →
          profiles.Pairwise fun p q => Text.bytes p.serverAddr < Text.bytes q.serverAddr) ∧
        (savedHistory.documents = [] → profiles = savedHistory.store.profiles) := by
  have hs : savedHistory.succeeded = true := by decide +kernel
  have hf : ∀ t ∈ savedHistory.documents, Table.ofChars? t.chars = some t := by decide +kernel
  refine ⟨by decide +kernel, ?_⟩
  exact reopened (openOn_handEdited []) (by simp [StoreCall.IsNamed, Profile.new]) hs
    fun t ht => (Format.readsBack_pretty_iff t).2 (hf t ht)

/-- Before a document is printed, the profiles are in the order of the sections: a store that is
opened anew does not have them in the order of their addresses. -/
theorem unordered_unprintedHistory :
    unprintedHistory.succeeded = true ∧
      (∀ t ∈ unprintedHistory.documents, handEditedFile.format.ReadsBack t) ∧
      ∃ profiles, (ProfileStore.openOn (sectionFile handEditedFile)
          (.ofTree unprintedHistory.disk.tree)).1.toOption.map (·.profiles) = some profiles ∧
        ¬profiles.Pairwise fun p q => Text.bytes p.serverAddr < Text.bytes q.serverAddr := by
  refine ⟨by decide +kernel, by decide +kernel, handEditedStore.profiles, ?_, ?_⟩
  · decide +kernel
  · decide +kernel

end StoreHistory

end ProxyControl
