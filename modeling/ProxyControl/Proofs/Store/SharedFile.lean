import ProxyControl.Proofs.Files.Faults
import ProxyControl.Proofs.Store.Persistence
import ProxyControl.Store.Settings

/-!
# A file that a store shares

The saved profiles, the settings and other sections are parts of one document. Whoever writes a part
reads the whole document, changes that part and writes all of it, so the parts that others own must
come through every write unchanged. The two kinds of writes divide the document by the names of its
sections: the names of profile sections are the store's, and all others are not.

What a name has that is not the store's is what was last written under it. The profile sections are
those of the working set from the first write of the store on; before that they are the ones that
the file had, whatever the store may hold.

A document that is printed must read back, and no read may be told without cause that there is no
file: it would take the document for an empty one.

## Main definitions

* `FileCall`: a call that changes the file, by the store or by others
* `FileCall.written?`: what a call writes under a name that is not the store's
* `FileHistory`: a store and its disk after some calls
* `FileHistory.Holds`: what the file holds

## Main results

* `FileCall.value?_printed?`: a call changes no name but its own
* `FileCall.perm_profileEntries_printed?`: a write of the store leaves its profiles and no others
* `FileHistory.document_run`: what the file holds after some calls
-/

set_option autoImplicit false

namespace ProxyControl

open Document

/-! ## The profile sections of a document -/

/-- The entries of a document that belong to the store. -/
def profileEntries (t : Table) : Table := t.filter fun e => isProfileSection e.1

theorem profileEntries_cons (e : String × Value) (t : Table) :
    profileEntries (e :: t) =
      if isProfileSection e.1 = true then e :: profileEntries t else profileEntries t :=
  List.filter_cons

theorem profileEntries_eq_nil {t : Table} (h : ∀ e ∈ t, isProfileSection e.1 = false) :
    profileEntries t = [] := by
  simpa [profileEntries, List.filter_eq_nil_iff] using h

theorem profileEntries_put {name : String} (h : isProfileSection name = false) (t : Table)
    (value : Value) : profileEntries (t.put name value) = profileEntries t := by
  have hput (t : Table) : profileEntries ((name, value) :: t) = profileEntries t := by
    rw [profileEntries_cons, if_neg (by simp [h])]
  induction t with
  | nil => exact hput []
  | cons e t ih =>
    obtain ⟨k, w⟩ := e
    rw [Table.put]
    split
    · next hk =>
      subst hk
      rw [hput, profileEntries_cons, if_neg (by simp [h])]
    · split
      · exact hput _
      · rw [profileEntries_cons, ih, profileEntries_cons]

/-- The sections of profiles for different servers are all that a document has after they were put
in place of its profile sections. -/
theorem perm_profileEntries_putProfiles (t : Table) {profiles : List Profile}
    (hd : (profiles.map (·.serverAddr)).Nodup) :
    (profileEntries (putProfiles t profiles)).Perm (profiles.map Profile.entry) := by
  obtain ⟨low, high, hl, hh, ht⟩ := exists_putProfiles_eq t profiles
  have hperm := perm_putProfiles_nil hd
  -- the entries on both sides are not the store's, and those in between all are
  have hall : profileEntries (putProfiles [] profiles) = putProfiles [] profiles := by
    refine List.filter_eq_self.2 fun e he => ?_
    obtain ⟨p, -, rfl⟩ := List.mem_map.1 (hperm.mem_iff.1 he)
    exact isProfileSection_sectionName _
  have hsplit : profileEntries (low ++ putProfiles [] profiles ++ high) =
      profileEntries low ++ profileEntries (putProfiles [] profiles) ++ profileEntries high := by
    simp only [profileEntries, List.filter_append]
  rw [ht, hsplit, profileEntries_eq_nil hl, profileEntries_eq_nil hh, hall, List.nil_append,
    List.append_nil]
  exact hperm

theorem value?_putProfiles (t : Table) (profiles : List Profile) {name : String}
    (h : isProfileSection name = false) : (putProfiles t profiles).value? name = t.value? name := by
  have hfold (u : Table) : Table.value? (profiles.foldl (fun t p => t.put p.entry.1 p.entry.2) u)
      name = u.value? name := by
    induction profiles generalizing u with
    | nil => rfl
    | cons p profiles ih =>
      have hne : p.entry.1 ≠ name := by
        rintro rfl
        rw [Profile.entry, isProfileSection_sectionName] at h
        cases h
      rw [List.foldl_cons, ih, Table.value?_put, if_neg hne]
  refine (hfold _).trans ?_
  rw [Table.value?_keep, h]
  rfl

/-! ## Reads and writes of the file -/

namespace DocumentFile

variable {file : DocumentFile} {d d' : Disk}

theorem read_disk (file : DocumentFile) (d : Disk) :
    (file.read d).2 = ⟨d.tree, d.faults.tail⟩ := by
  have hc : (d.read file.path).2 = ⟨d.tree, d.faults.tail⟩ := by
    unfold Disk.read Disk.step
    dsimp only
    split <;> rfl
  unfold read readText
  rcases hr : d.read file.path with ⟨e | bytes, d₁⟩ <;> rw [hr] at hc
  · by_cases he : e = .notFound <;> simpa [he] using hc
  · cases hu : String.fromUTF8? bytes with
    | none => simpa [hu] using hc
    | some text => cases hf : file.format.read text <;> simpa [hu, hf] using hc

/-- A read that is cut short has no document. -/
theorem read_some_cons {f : Fault} (hf : f.error ≠ .notFound) (file : DocumentFile)
    (tree : FileTree) (faults : List (Option Fault)) :
    (file.read ⟨tree, some f :: faults⟩).1 = .error (.io file.path.shown "read" f.error) := by
  have hc : Disk.read file.path ⟨tree, some f :: faults⟩ = (.error f.error, ⟨tree, faults⟩) := rfl
  simp [read, readText, hc, hf]

/-- Where no fault hides the file, a document that is read is the one that the file has. -/
theorem read_of_isHonest (hd : d.IsHonest) {t : Table} (h : (file.read d).1 = .ok t) :
    (file.read (.ofTree d.tree)).1 = .ok t := by
  obtain ⟨tree, faults⟩ := d
  cases faults with
  | nil => exact h
  | cons fault faults =>
    cases fault with
    | none =>
      rw [read_none_cons] at h
      exact h
    | some f =>
      have hf := hd f List.mem_cons_self
      rw [read_some_cons hf] at h
      cases h

theorem faults_read (file : DocumentFile) (d : Disk) : (file.read d).2.faults <:+ d.faults := by
  rw [read_disk]
  exact List.tail_suffix _

theorem faults_putSection (file : DocumentFile) (name : String) (v : Table) (d : Disk) :
    (file.putSection name v d).2.faults <:+ d.faults := by
  have hread := faults_read file d
  unfold putSection
  rcases hr : file.read d with ⟨_ | t, d₁⟩ <;> rw [hr] at hread
  · exact hread
  · exact (Disk.faults_writeAtomic ..).trans hread

/-- A section that was put is in the place of what the document had under its name. -/
theorem putSection_ok {name : String} {v : Table} (h : file.putSection name v d = (.ok (), d')) :
    ∃ t, (file.read d).1 = .ok t ∧
      d'.tree.read? file.path = .ok (file.format.write (t.put name (.table v))).toUTF8 := by
  unfold putSection at h
  rcases hr : file.read d with ⟨_ | t, d₁⟩
  · simp [hr] at h
  · simp only [hr] at h
    exact ⟨t, rfl, Disk.read?_of_writeAtomic h⟩

end DocumentFile

namespace ProfileStore

variable {file : DocumentFile} {s : ProfileStore Disk}

theorem faults_commit (hs : s.backend = sectionFile file) (next : List Profile) (d : Disk) :
    (s.commit next d).2.2.faults <:+ d.faults := by
  have hwrite : (s.backend.writeAll next d).2.faults <:+ d.faults := by
    have hread := file.faults_read d
    rw [hs, sectionFile]
    dsimp only
    rcases hr : file.read d with ⟨_ | t, d₁⟩ <;> rw [hr] at hread
    · exact hread
    · exact (Disk.faults_writeAtomic ..).trans hread
  unfold commit
  rcases hw : s.backend.writeAll next d with ⟨_ | _, d₁⟩ <;> rw [hw] at hwrite <;> exact hwrite

end ProfileStore

theorem StoreCall.faults_run {file : DocumentFile} {s : ProfileStore Disk}
    (hs : s.backend = sectionFile file) (c : StoreCall) (d : Disk) :
    (c.run s d).2.2.faults <:+ d.faults := by
  cases c with
  | save p =>
    rw [run, ProfileStore.save]
    split
    · exact List.suffix_rfl
    · exact ProfileStore.faults_commit hs _ d
  | delete server =>
    have hcommit := ProfileStore.faults_commit hs (removeServer server s.profiles) d
    rw [run, ProfileStore.delete]
    cases s.get? server with
    | none => exact List.suffix_rfl
    | some p =>
      rcases hc : s.commit (removeServer server s.profiles) d with ⟨_ | _, s₁, d₁⟩ <;>
        rw [hc] at hcommit <;> exact hcommit

/-! ## Calls -/

/-- A call that changes the file: the settings are saved, a section is put under a name, or the
store is called. -/
inductive FileCall
  | saveSettings (s : Settings)
  | putSection (name : String) (v : Table)
  | profile (c : StoreCall)

namespace FileCall

/-- No name of a profile section is written but by the store. -/
def SparesProfiles : FileCall → Prop
  | saveSettings _ => True
  | putSection name _ => isProfileSection name = false
  | profile _ => True

/-- What a call gives: whether it succeeds, the store and the disk. -/
def run (file : DocumentFile) (s : ProfileStore Disk) (d : Disk) :
    FileCall → Bool × ProfileStore Disk × Disk
  | saveSettings settings =>
    let x := ProxyControl.saveSettings file settings d
    (x.1.isOk, s, x.2)
  | putSection name v =>
    let x := file.putSection name v d
    (x.1.isOk, s, x.2)
  | profile c => c.run s d

/-- The document that a call prints in place of another one, if it prints one. -/
def printed? (profiles : List Profile) (t : Table) : FileCall → Option Table
  | saveSettings s => s.toTable.toOption.map fun v => t.put settingsSection (.table v)
  | putSection name v => some (t.put name (.table v))
  | profile c => (c.next? profiles).map (putProfiles t)

/-- What a call writes under a name that is not the store's. -/
def written? (name : String) : FileCall → Option Value
  | saveSettings s => if settingsSection = name then s.toTable.toOption.map .table else none
  | putSection other v => if other = name then some (.table v) else none
  | profile _ => none

/-- The working set after a call. -/
def next (profiles : List Profile) : FileCall → List Profile
  | profile c => (c.next? profiles).getD profiles
  | _ => profiles

/-- Whether a call writes the profiles. -/
def writesProfiles (profiles : List Profile) : FileCall → Bool
  | profile c => (c.next? profiles).isSome
  | _ => false

variable {file : DocumentFile} {c : FileCall} {profiles : List Profile} {t u : Table}

/-- A call that prints no document writes nothing. -/
theorem eq_of_printed?_eq_none (h : c.printed? profiles t = none) :
    c.next profiles = profiles ∧ c.writesProfiles profiles = false ∧
      ∀ name, c.written? name = none := by
  cases c with
  | saveSettings s =>
    have hs : s.toTable.toOption = none := Option.map_eq_none_iff.1 h
    refine ⟨rfl, rfl, fun name => ?_⟩
    rw [written?, hs]
    split <;> rfl
  | putSection name v => cases h
  | profile c =>
    have hnext : c.next? profiles = none := Option.map_eq_none_iff.1 h
    rw [next, writesProfiles, hnext]
    exact ⟨rfl, rfl, fun _ => rfl⟩

/-- **A call changes no name but its own**: another one that is not the store's has what it had. -/
theorem value?_printed? (h : c.printed? profiles t = some u) {name : String}
    (hn : isProfileSection name = false) :
    u.value? name = (c.written? name).or (t.value? name) := by
  cases c with
  | saveSettings s =>
    obtain ⟨v, hv, rfl⟩ := Option.map_eq_some_iff.1 h
    rw [Table.value?_put, written?, hv]
    split <;> rfl
  | putSection other v =>
    obtain rfl := Option.some.inj h
    rw [Table.value?_put, written?]
    split <;> rfl
  | profile c =>
    obtain ⟨next, -, rfl⟩ := Option.map_eq_some_iff.1 h
    exact value?_putProfiles t next hn

/-- A call of the others leaves the profiles alone. -/
theorem profileEntries_printed? (h : c.printed? profiles t = some u) (hc : c.SparesProfiles)
    (hw : c.writesProfiles profiles = false) :
    profileEntries u = profileEntries t ∧ c.next profiles = profiles := by
  cases c with
  | saveSettings s =>
    obtain ⟨v, -, rfl⟩ := Option.map_eq_some_iff.1 h
    exact ⟨profileEntries_put (by decide) t _, rfl⟩
  | putSection name v =>
    obtain rfl := Option.some.inj h
    exact ⟨profileEntries_put hc t _, rfl⟩
  | profile c =>
    obtain ⟨next, hnext, -⟩ := Option.map_eq_some_iff.1 h
    rw [writesProfiles, hnext] at hw
    cases hw

/-- **A write of the store leaves its profiles and no others.** -/
theorem perm_profileEntries_printed? (h : c.printed? profiles t = some u)
    (hw : c.writesProfiles profiles = true)
    (hd : ((c.next profiles).map (·.serverAddr)).Nodup) :
    (profileEntries u).Perm ((c.next profiles).map Profile.entry) := by
  cases c with
  | saveSettings s => cases hw
  | putSection name v => cases hw
  | profile c =>
    obtain ⟨next, hnext, rfl⟩ := Option.map_eq_some_iff.1 h
    have hgetD : FileCall.next profiles (profile c) = next := by rw [FileCall.next, hnext]; rfl
    rw [hgetD] at hd ⊢
    exact perm_profileEntries_putProfiles t hd

theorem faults_run {s : ProfileStore Disk} (hs : s.backend = sectionFile file) (c : FileCall)
    (d : Disk) : (c.run file s d).2.2.faults <:+ d.faults := by
  cases c with
  | saveSettings settings =>
    rw [run, ProxyControl.saveSettings]
    cases settings.toTable with
    | error detail => exact List.suffix_rfl
    | ok v => exact file.faults_putSection settingsSection v d
  | putSection name v => exact file.faults_putSection name v d
  | profile c => exact c.faults_run hs d

theorem run_putSection_ok {s s' : ProfileStore Disk} {d d' : Disk} {name : String} {v : Table}
    (h : (putSection name v).run file s d = (true, s', d')) :
    s' = s ∧ ∃ t, (file.read d).1 = .ok t ∧
      d'.tree.read? file.path = .ok (file.format.write (t.put name (.table v))).toUTF8 := by
  rcases hx : file.putSection name v d with ⟨e | _, d₁⟩
  · simp [run, hx, Except.isOk, Except.toBool] at h
  · obtain ⟨rfl, rfl⟩ : s = s' ∧ d₁ = d' := by
      simpa [run, hx, Except.isOk, Except.toBool] using h
    exact ⟨rfl, DocumentFile.putSection_ok hx⟩

/-- What a call has done that succeeds: it has printed one document in place of another one, or
changed nothing. -/
theorem run_ok {s s' : ProfileStore Disk} {d d' : Disk} (hb : s.backend = sectionFile file)
    (hs : IsProfileSet s.profiles) (h : c.run file s d = (true, s', d')) :
    s'.backend = sectionFile file ∧ s'.profiles = c.next s.profiles ∧ IsProfileSet s'.profiles ∧
      ((∀ t, c.printed? s.profiles t = none) ∧ d' = d ∨
        ∃ t u, (file.read d).1 = .ok t ∧ c.printed? s.profiles t = some u ∧
          d'.tree.read? file.path = .ok (file.format.write u).toUTF8) := by
  cases c with
  | saveSettings settings =>
    cases ht : settings.toTable with
    | error detail => simp [run, ProxyControl.saveSettings, ht, Except.isOk, Except.toBool] at h
    | ok v =>
      have hput : (putSection settingsSection v).run file s d = (true, s', d') := by
        rw [run, ProxyControl.saveSettings, ht] at h
        exact h
      obtain ⟨rfl, t, hr, hw⟩ := run_putSection_ok hput
      exact ⟨hb, rfl, hs, .inr ⟨t, _, hr, by simp [printed?, ht, Except.toOption], hw⟩⟩
  | putSection name v =>
    obtain ⟨rfl, t, hr, hw⟩ := run_putSection_ok h
    exact ⟨hb, rfl, hs, .inr ⟨t, _, hr, rfl, hw⟩⟩
  | profile c =>
    rcases StoreCall.run_ok hs h with ⟨hnext, rfl, rfl⟩ | ⟨next, hnext, hset, hc⟩
    · refine ⟨hb, ?_, hs, .inl ⟨fun t => ?_, rfl⟩⟩
      · rw [FileCall.next, hnext]
        rfl
      · rw [printed?, hnext]
        rfl
    · obtain ⟨rfl, t, hr, hw⟩ := ProfileStore.exists_read_of_commit hb hc
      refine ⟨hb, ?_, hset, .inr ⟨t, putProfiles t next, hr, ?_, hw⟩⟩
      · rw [FileCall.next, hnext]
        rfl
      · rw [printed?, hnext]
        rfl

end FileCall

/-! ## Histories -/

/-- A store and its disk after some calls. -/
structure FileHistory where
  store : ProfileStore Disk
  disk : Disk
  /-- The documents that the calls printed, the last one first. -/
  documents : List Table
  /-- The store has written its profiles. -/
  wroteProfiles : Bool
  /-- Every call has succeeded. -/
  succeeded : Bool

namespace FileHistory

/-- A store and its disk before the first call. -/
def initial (s : ProfileStore Disk) (d : Disk) : FileHistory := ⟨s, d, [], false, true⟩

/-- One call more. -/
def call (file : DocumentFile) (x : FileHistory) (c : FileCall) : FileHistory :=
  let (succeeded, store, disk) := c.run file x.store x.disk
  let document := (file.read x.disk).1.toOption.bind fun t => c.printed? x.store.profiles t
  ⟨store, disk, document.toList ++ x.documents,
    c.writesProfiles x.store.profiles || x.wroteProfiles, succeeded && x.succeeded⟩

/-- All calls in their order. -/
def run (file : DocumentFile) (x : FileHistory) (calls : List FileCall) : FileHistory :=
  calls.foldl (call file) x

variable {file : DocumentFile} {x : FileHistory} {t t₀ : Table}

/-- What the file holds: a document whose profile sections are those of the working set, or those
that the file had before the store wrote. -/
structure Holds (file : DocumentFile) (t₀ : Table) (x : FileHistory) (t : Table) : Prop where
  /-- The profiles are kept in the file. -/
  backend : x.store.backend = sectionFile file
  profiles : IsProfileSet x.store.profiles
  honest : x.disk.IsHonest
  read : (file.read (.ofTree x.disk.tree)).1 = .ok t
  written : x.wroteProfiles = true →
    (profileEntries t).Perm (x.store.profiles.map Profile.entry)
  unwritten : x.wroteProfiles = false → profileEntries t = profileEntries t₀

/-- A document that a call printed in place of the one before has the profile sections that it
should have. -/
theorem Holds.profileEntries_printed (h : x.Holds file t₀ t) {c : FileCall}
    (hc : c.SparesProfiles) {u : Table} (hu : c.printed? x.store.profiles t = some u)
    (hset : IsProfileSet (c.next x.store.profiles)) :
    ((c.writesProfiles x.store.profiles || x.wroteProfiles) = true →
      (profileEntries u).Perm ((c.next x.store.profiles).map Profile.entry)) ∧
    ((c.writesProfiles x.store.profiles || x.wroteProfiles) = false →
      profileEntries u = profileEntries t₀) := by
  cases hw : c.writesProfiles x.store.profiles with
  | true =>
    refine ⟨fun _ => ?_, fun hwrote => by cases hwrote⟩
    exact FileCall.perm_profileEntries_printed? hu hw hset.distinct
  | false =>
    obtain ⟨he, hnext⟩ := FileCall.profileEntries_printed? hu hc hw
    rw [Bool.false_or, he, hnext]
    exact ⟨h.written, h.unwritten⟩

/-- A call that succeeds leaves under each name that is not the store's what it writes there, or
what there was. -/
theorem Holds.call (h : x.Holds file t₀ t) {c : FileCall} (hc : c.SparesProfiles)
    (hs : (x.call file c).succeeded = true)
    (hf : ∀ u ∈ (x.call file c).documents, file.format.ReadsBack u) :
    ∃ u, (x.call file c).Holds file t₀ u ∧ ∀ name, isProfileSection name = false →
      u.value? name = (c.written? name).or (t.value? name) := by
  have hfaults := c.faults_run h.backend x.disk
  rcases hr : c.run file x.store x.disk with ⟨succeeded, s', d'⟩
  rw [hr] at hfaults
  have hhonest : d'.IsHonest := h.honest.of_suffix hfaults
  simp only [FileHistory.call, hr] at hs hf ⊢
  obtain ⟨rfl, -⟩ := Bool.and_eq_true_iff.1 hs
  obtain ⟨hb, hp, hset, hdone⟩ := FileCall.run_ok h.backend h.profiles hr
  rcases hdone with ⟨hnone, rfl⟩ | ⟨t', u, ht', hu, hbytes⟩
  · obtain ⟨hnext, hw, hwritten⟩ := FileCall.eq_of_printed?_eq_none (hnone t)
    rw [hnext] at hp
    refine ⟨t, ⟨hb, hset, hhonest, h.read, ?_, ?_⟩, fun name _ => ?_⟩
    · rw [hw, Bool.false_or, hp]
      exact h.written
    · rw [hw, Bool.false_or]
      exact h.unwritten
    · rw [hwritten, Option.none_or]
  · obtain rfl : t' = t := by
      have hread := DocumentFile.read_of_isHonest h.honest ht'
      exact Except.ok.inj (hread.symm.trans h.read)
    have hback : file.format.ReadsBack u := hf u (by simp [ht', hu, Except.toOption])
    have hread := DocumentFile.read_ofTree hback hbytes
    obtain ⟨hwritten, hunwritten⟩ := h.profileEntries_printed hc hu (hp ▸ hset)
    rw [← hp] at hwritten
    exact ⟨u, ⟨hb, hset, hhonest, hread, hwritten, hunwritten⟩, fun name hn =>
      FileCall.value?_printed? hu hn⟩

/-- A history has succeeded only if what came before its last calls has. -/
theorem succeeded_of_run {calls : List FileCall} (h : (x.run file calls).succeeded = true) :
    x.succeeded = true := by
  induction calls generalizing x with
  | nil => exact h
  | cons c calls ih => exact (Bool.and_eq_true_iff.1 (ih h)).2

theorem mem_documents_run {u : Table} (h : u ∈ x.documents) (calls : List FileCall) :
    u ∈ (x.run file calls).documents := by
  induction calls generalizing x with
  | nil => exact h
  | cons c calls ih => exact ih (List.mem_append_right _ h)

/-- Calls that succeed leave under each name that is not the store's what the last of them wrote
there, or what there was. -/
theorem Holds.run (h : x.Holds file t₀ t) {calls : List FileCall}
    (hc : ∀ c ∈ calls, c.SparesProfiles) (hs : (x.run file calls).succeeded = true)
    (hf : ∀ u ∈ (x.run file calls).documents, file.format.ReadsBack u) :
    ∃ u, (x.run file calls).Holds file t₀ u ∧ ∀ name, isProfileSection name = false →
      u.value? name = (calls.filterMap (·.written? name)).getLast?.or (t.value? name) := by
  induction calls generalizing x t with
  | nil => exact ⟨t, h, fun _ _ => rfl⟩
  | cons c calls ih =>
    have hfirst : ∀ u ∈ (x.call file c).documents, file.format.ReadsBack u :=
      fun u hu => hf u (mem_documents_run hu calls)
    obtain ⟨t₁, h₁, hvalue₁⟩ := h.call (hc c List.mem_cons_self) (succeeded_of_run hs) hfirst
    obtain ⟨u, hu, hvalue⟩ := ih h₁ (fun c hm => hc c (List.mem_cons_of_mem _ hm)) hs hf
    refine ⟨u, hu, fun name hn => ?_⟩
    rw [hvalue name hn, hvalue₁ name hn, ← Option.or_assoc]
    -- what the first call wrote stands only where no later one wrote anything
    cases hw : c.written? name with
    | none => rw [List.filterMap_cons_none hw, Option.or_none]
    | some v => rw [List.filterMap_cons_some hw, List.getLast?_cons, ← Option.or_some]

/-- **No write is lost.** A store was opened on a file at any time, and then it and others write to
the file in any order. When all calls have succeeded, every name that is not the store's has what
was last written there, or else what it had in the first document. The profile sections are those of
the working set, one for each profile under the name of its server, if the store has written it; if
not, they are those of the first document. -/
theorem document_run {s : ProfileStore Disk} {opened opened' d : Disk} {calls : List FileCall}
    (ho : ProfileStore.openOn (sectionFile file) opened = (.ok s, opened'))
    (hd : d.IsHonest) (ht : (file.read (.ofTree d.tree)).1 = .ok t)
    (hc : ∀ c ∈ calls, c.SparesProfiles)
    (hs : ((initial s d).run file calls).succeeded = true)
    (hf : ∀ u ∈ ((initial s d).run file calls).documents, file.format.ReadsBack u) :
    let x := (initial s d).run file calls
    ∃ u, (file.read (.ofTree x.disk.tree)).1 = .ok u ∧
      (∀ name, isProfileSection name = false →
        u.value? name = (calls.filterMap (·.written? name)).getLast?.or (t.value? name)) ∧
      (x.wroteProfiles = true →
        (x.store.profiles.map (Profile.sectionName ·.serverAddr)).Nodup ∧
          (profileEntries u).Perm (x.store.profiles.map fun p =>
            (Profile.sectionName p.serverAddr, .table p.toSection.toTable))) ∧
      (x.wroteProfiles = false → profileEntries u = profileEntries t) := by
  intro x
  obtain ⟨t₁, -, rfl⟩ := ProfileStore.exists_read_of_openOn ho
  have hinitial : (initial ⟨sectionFile file, _⟩ d).Holds file t t :=
    { backend := rfl
      profiles := isProfileSet_workingSet (profilesOfDocument t₁)
      honest := hd
      read := ht
      written := by simp [initial]
      unwritten := fun _ => rfl }
  obtain ⟨u, h, hvalue⟩ := hinitial.run hc hs hf
  refine ⟨u, h.read, hvalue, fun hw => ⟨?_, h.written hw⟩, h.unwritten⟩
  have hdistinct := h.profiles.distinct
  rw [List.Nodup, List.pairwise_map] at hdistinct ⊢
  exact hdistinct.imp fun hne heq => hne (sectionName_inj heq)

/-- A file with a section whose profile the store keeps under another name. -/
def renamed : FileTree := .directory [("s", .file "[server-]\nAddress = \"a\"\n".toUTF8)]

def renamedFile : DocumentFile := ⟨⟨"s", []⟩, .pretty⟩

def renamedDocument : Table := [("server-", .table [("Address", .string "a")])]

theorem read_renamed : (renamedFile.read (.ofTree renamed)).1 = .ok renamedDocument :=
  eq_ok_of_toOption (by decide +kernel)

/-- The settings are saved, and then a profile. -/
def renamedCalls : List FileCall :=
  [.saveSettings Settings.initial, .profile (.save (Profile.new "b"))]

/-- A store that was opened on the file, after these calls. -/
def renamedHistory : FileHistory :=
  (initial ⟨sectionFile renamedFile,
    ProfileStore.workingSet (profilesOfDocument renamedDocument)⟩ (.ofTree renamed)).run
      renamedFile renamedCalls

/-- The settings are there after the profiles were written, and of the profile sections those of the
two profiles that the store has. -/
theorem document_renamedHistory :
    renamedHistory.store.profiles.map (·.serverAddr) = ["a", "b"] ∧
      ∃ u, (renamedFile.read (.ofTree renamedHistory.disk.tree)).1 = .ok u ∧
        u.value? settingsSection = Settings.initial.toTable.toOption.map .table ∧
        (profileEntries u).Perm (renamedHistory.store.profiles.map fun p =>
          (Profile.sectionName p.serverAddr, .table p.toSection.toTable)) := by
  have hc : ∀ c ∈ renamedCalls, c.SparesProfiles := by
    simp [renamedCalls, FileCall.SparesProfiles]
  obtain ⟨hs, hw, hprofiles, hf⟩ : renamedHistory.succeeded = true ∧
      renamedHistory.wroteProfiles = true ∧
      renamedHistory.store.profiles.map (·.serverAddr) = ["a", "b"] ∧
      ∀ t ∈ renamedHistory.documents, Table.ofChars? t.chars = some t := by decide +kernel
  have ho := ProfileStore.openOn_sectionFile read_renamed
  have hhonest : (Disk.ofTree renamed).IsHonest := by simp [Disk.IsHonest, Disk.ofTree]
  have hback : ∀ t ∈ renamedHistory.documents, renamedFile.format.ReadsBack t :=
    fun t ht => (Format.readsBack_pretty_iff t).2 (hf t ht)
  obtain ⟨u, hread, hvalue, hwritten, -⟩ :=
    document_run ho hhonest read_renamed hc hs hback
  refine ⟨hprofiles, u, hread, ?_, (hwritten hw).2⟩
  rw [hvalue settingsSection (by decide)]
  decide +kernel

end FileHistory

end ProxyControl
