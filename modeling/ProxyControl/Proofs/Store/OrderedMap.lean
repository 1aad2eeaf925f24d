import ProxyControl.Proofs.Store.WorkingSet

/-!
# Stores as maps in order

A store is a map from servers to profiles that remembers the order in which the servers came. A
profile that is saved takes the place of the one for its server or comes last, one that is deleted
leaves the others as they are, and a request that fails changes nothing. Requests are met by a world
each, so between two of them the file may be changed by anybody, and each step on it may fail.

The map is stated by its two views, the servers in their order and the profile of each server, and
not as a list that is searched.

## Main definitions

* `ProfileMap`: a map in order
* `ProfileMap.ofContents`: the map that is read from a file
* `StoreRequest`, `StoreAnswer`, `StoreRound`: what a store is asked and what it answers
* `ProfileMap.Step`, `ProfileMap.Run`: what a map answers, by what its backend does
* `ProfileStore.serve`: the requests of a store
* `ProfilePlace`: the backends that there are

## Main results

* `ProfileMap.ofList_workingSet`: what is loaded is the map of what the file has
* `ProfileMap.ofList_upsert`, `ProfileMap.ofList_removeServer`: changes of a list are those of a map
* `ProfileStore.step_run`: every request is a step of the map
* `ProfilePlace.serve_isRun`: the requests of a store are a run of the map
-/

set_option autoImplicit false

namespace ProxyControl

/-- Profiles by their servers, which have an order. -/
structure ProfileMap where
  /-- The servers in their order. -/
  servers : List String
  /-- The profile of a server. -/
  profile? : String → Option Profile

namespace ProfileMap

/-- The map of some profiles. -/
def ofList (profiles : List Profile) : ProfileMap :=
  ⟨profiles.map (·.serverAddr), findProfile? profiles⟩

/-- The map of what a backend has, with as many servers as a store holds: they are in the order in
which they come first, and the profile of each is the first one for it. -/
def ofContents (contents : List Profile) : ProfileMap :=
  let servers := (contents.map (·.serverAddr)).eraseDups.take maxProfiles
  ⟨servers, fun server =>
    if server ∈ servers then contents.find? (·.serverAddr = server) else none⟩

/-- The profiles in the order of their servers. -/
def profiles (m : ProfileMap) : List Profile := m.servers.filterMap m.profile?

/-- A profile kept under its server: in the place of that, or last if it is new. -/
def put (m : ProfileMap) (p : Profile) : ProfileMap where
  servers := if p.serverAddr ∈ m.servers then m.servers else m.servers ++ [p.serverAddr]
  profile? server := if server = p.serverAddr then some p else m.profile? server

/-- A server taken away. -/
def remove (m : ProfileMap) (server : String) : ProfileMap where
  servers := m.servers.erase server
  profile? other := if other = server then none else m.profile? other

/-- Whether a profile takes the place of another one, or there is room for one more. -/
def HasRoom (m : ProfileMap) (p : Profile) : Prop :=
  p.serverAddr ∈ m.servers ∨ m.servers.length < maxProfiles

/-! ## Lists as maps -/

/-- Saving a profile in a list is keeping it in the map. -/
theorem ofList_upsert (p : Profile) (profiles : List Profile) :
    ofList (upsert p profiles) = (ofList profiles).put p := by
  rw [ofList, map_upsert, put]
  exact congrArg (ProfileMap.mk _) (funext (findProfile?_upsert p profiles))

/-- Deleting a profile in a list is taking its server away from the map. -/
theorem ofList_removeServer (server : String) {profiles : List Profile}
    (hd : (profiles.map (·.serverAddr)).Nodup) :
    ofList (removeServer server profiles) = (ofList profiles).remove server := by
  rw [ofList, map_removeServer, remove]
  exact congrArg (ProfileMap.mk _) (funext (findProfile?_removeServer server hd))

/-- A list of profiles for different servers is that of its map. -/
theorem profiles_ofList {profiles : List Profile} (hd : (profiles.map (·.serverAddr)).Nodup) :
    (ofList profiles).profiles = profiles := by
  have hfound (l : List Profile) (hl : ∀ p ∈ l, p ∈ profiles) :
      (l.map (·.serverAddr)).filterMap (findProfile? profiles) = l := by
    induction l with
    | nil => rfl
    | cons p l ih =>
      have hp := findProfile?_of_mem hd (hl p List.mem_cons_self)
      rw [List.map_cons, List.filterMap_cons_some hp,
        ih fun q hq => hl q (List.mem_cons_of_mem p hq)]
  exact hfound profiles fun _ hp => hp

/-- What is loaded is the map of what the backend has. -/
theorem ofList_workingSet (contents : List Profile) :
    ofList (ProfileStore.workingSet contents) = ofContents contents := by
  have hservers : (firstOfEach contents).map (·.serverAddr) =
      (contents.map (·.serverAddr)).eraseDups := by
    rw [firstOfEach, map_firstOfEachFrom, List.filter_eq_self.2 (by simp)]
  have hd : ((firstOfEach contents).map (·.serverAddr)).Nodup := nodup_firstOfEachFrom [] contents
  have hfound (server : String) : findProfile? (firstOfEach contents) server =
      contents.find? (·.serverAddr = server) := findProfile?_firstOfEachFrom [] contents server
  rw [ofList, ofContents, ProfileStore.workingSet, List.map_take, ← hservers]
  refine congrArg (ProfileMap.mk _) (funext fun server => ?_)
  rw [findProfile?_take hd, hfound]

theorem profiles_ofContents (contents : List Profile) :
    (ofContents contents).profiles = ProfileStore.workingSet contents := by
  rw [← ofList_workingSet, profiles_ofList (isProfileSet_workingSet contents).distinct]

theorem hasRoom_ofList_iff (profiles : List Profile) (p : Profile) :
    (ofList profiles).HasRoom p ↔
      (findProfile? profiles p.serverAddr = none → profiles.length < maxProfiles) := by
  rw [HasRoom, ofList, List.length_map, findProfile?_eq_none_iff, Decidable.or_iff_not_imp_left]

end ProfileMap

/-! ## Requests -/

/-- What a store is asked: to read its working set anew, for its profiles or the one of a server,
to save a profile, or to delete the one of a server. -/
inductive StoreRequest
  | load
  | list
  | get (server : String)
  | save (p : Profile)
  | delete (server : String)

/-- What a store answers. -/
inductive StoreAnswer
  | profiles (l : List Profile)
  | profile (p : Option Profile)
  | saved
  | failed (e : StoreError)

/-- A request with its answer, and the world before and after it. -/
structure StoreRound (W : Type) where
  request : StoreRequest
  before : W
  answer : StoreAnswer
  after : W

variable {W : Type}

/-- What a request gives: the answer, the store and the world. -/
def StoreRequest.run (s : ProfileStore W) (w : W) : StoreRequest → StoreAnswer × ProfileStore W × W
  | load =>
    match s.load w with
    | (.error e, s, w) => (.failed e, s, w)
    | (.ok (), s, w) => (.profiles s.profiles, s, w)
  | list => (.profiles s.profiles, s, w)
  | get server => (.profile (s.get? server), s, w)
  | save p =>
    match s.save p w with
    | (.error e, s, w) => (.failed e, s, w)
    | (.ok (), s, w) => (.saved, s, w)
  | delete server =>
    match s.delete server w with
    | (.error e, s, w) => (.failed e, s, w)
    | (.ok removed, s, w) => (.profile removed, s, w)

/-- The requests of a store in their order, each in a world of its own. -/
def ProfileStore.serve (s : ProfileStore W) :
    List (StoreRequest × W) → List (StoreRound W) × ProfileStore W
  | [] => ([], s)
  | (request, w) :: rest =>
    let (answer, s, after) := request.run s w
    let (rounds, s) := s.serve rest
    (⟨request, w, answer, after⟩ :: rounds, s)

/-! ## Steps of a map -/

namespace ProfileMap

/-- What a map answers and becomes, by what its backend does. -/
inductive Step (b : Backend W) (m : ProfileMap) : StoreRound W → ProfileMap → Prop
  /-- The map becomes that of what the backend has: the first for each server, and not too many. -/
  | loaded {w w' : W} {contents : List Profile} (hr : b.readAll w = (.ok contents, w')) :
    Step b m ⟨.load, w, .profiles (ofContents contents).profiles, w'⟩ (ofContents contents)
  | unread {w w' : W} {e : StoreError} (hr : b.readAll w = (.error e, w')) :
    Step b m ⟨.load, w, .failed e, w'⟩ m
  | listed {w : W} : Step b m ⟨.list, w, .profiles m.profiles, w⟩ m
  /-- The profile of a server is the one that was kept last. -/
  | got {server : String} {w : W} : Step b m ⟨.get server, w, .profile (m.profile? server), w⟩ m
  | saved {p : Profile} {w w' : W} (hroom : m.HasRoom p)
    (hw : b.writeAll (m.put p).profiles w = (.ok (), w')) :
    Step b m ⟨.save p, w, .saved, w'⟩ (m.put p)
  | unsaved {p : Profile} {w w' : W} {e : StoreError} (hroom : m.HasRoom p)
    (hw : b.writeAll (m.put p).profiles w = (.error e, w')) :
    Step b m ⟨.save p, w, .failed e, w'⟩ m
  /-- There is no room for a profile, and nothing is written. -/
  | refused {p : Profile} {w : W} (hn : p.serverAddr ∉ m.servers)
    (hl : m.servers.length = maxProfiles) :
    Step b m ⟨.save p, w, .failed (.tooManyProfiles (maxProfiles + 1) maxProfiles), w⟩ m
  | deleted {server : String} {p : Profile} {w w' : W} (hp : m.profile? server = some p)
    (hw : b.writeAll (m.remove server).profiles w = (.ok (), w')) :
    Step b m ⟨.delete server, w, .profile (some p), w'⟩ (m.remove server)
  | undeleted {server : String} {p : Profile} {w w' : W} {e : StoreError}
    (hp : m.profile? server = some p)
    (hw : b.writeAll (m.remove server).profiles w = (.error e, w')) :
    Step b m ⟨.delete server, w, .failed e, w'⟩ m
  /-- There is no profile to delete, and nothing is written. -/
  | absent {server : String} {w : W} (hn : server ∉ m.servers) :
    Step b m ⟨.delete server, w, .profile none, w⟩ m

/-- What a map answers to some requests, and what it becomes. -/
inductive Run (b : Backend W) : ProfileMap → List (StoreRound W) → ProfileMap → Prop
  | nil (m : ProfileMap) : Run b m [] m
  | cons {m n k : ProfileMap} {round : StoreRound W} {rounds : List (StoreRound W)}
    (head : Step b m round n) (tail : Run b n rounds k) : Run b m (round :: rounds) k

end ProfileMap

namespace ProfileStore

variable {b : Backend W} {s : ProfileStore W}

/-- A working set that is to be kept: it is, or nothing changes. -/
theorem commit_cases (hb : s.backend = b) (next : List Profile) (w : W) :
    (∃ w', b.writeAll next w = (.ok (), w') ∧
        s.commit next w = (.ok (), { s with profiles := next }, w')) ∨
      ∃ e w', b.writeAll next w = (.error e, w') ∧ s.commit next w = (.error e, s, w') := by
  unfold commit
  rw [hb]
  rcases b.writeAll next w with ⟨e | _, w'⟩
  · exact .inr ⟨e, w', rfl, rfl⟩
  · exact .inl ⟨w', rfl, rfl⟩

/-- A profile is refused exactly if it is new and the store is full. -/
theorem save_of_not_hasRoom {p : Profile} (h : ¬(ProfileMap.ofList s.profiles).HasRoom p) (w : W) :
    s.save p w = (.error (.tooManyProfiles (s.profiles.length + 1) maxProfiles), s, w) := by
  rw [ProfileMap.hasRoom_ofList_iff, Classical.not_imp, Nat.not_lt] at h
  simp [save, get?, h.1, h.2]

theorem save_of_hasRoom {p : Profile} (h : (ProfileMap.ofList s.profiles).HasRoom p) (w : W) :
    s.save p w = s.commit (upsert p s.profiles) w := by
  rw [ProfileMap.hasRoom_ofList_iff] at h
  refine if_neg fun hn => ?_
  simp only [get?, Bool.and_eq_true, Option.isNone_iff_eq_none, decide_eq_true_eq] at hn
  exact absurd (h hn.1) (Nat.not_lt.2 hn.2)

/-- A store that has no room for a profile is full. -/
theorem length_of_not_hasRoom (hs : IsProfileSet s.profiles) {p : Profile}
    (h : ¬(ProfileMap.ofList s.profiles).HasRoom p) :
    p.serverAddr ∉ s.profiles.map (·.serverAddr) ∧ s.profiles.length = maxProfiles := by
  simp only [ProfileMap.HasRoom, ProfileMap.ofList, not_or, List.length_map, Nat.not_lt] at h
  exact ⟨h.1, Nat.le_antisymm hs.bounded h.2⟩

/-- **Every request is a step of the map**, and leaves no two profiles for one server and not too
many. -/
theorem step_run (hb : s.backend = b) (hs : IsProfileSet s.profiles) (request : StoreRequest)
    (w : W) :
    let x := request.run s w
    ProfileMap.Step b (.ofList s.profiles) ⟨request, w, x.1, x.2.2⟩ (.ofList x.2.1.profiles) ∧
      x.2.1.backend = b ∧ IsProfileSet x.2.1.profiles := by
  cases request with
  | load =>
    simp only [StoreRequest.run, load, hb]
    rcases hr : b.readAll w with ⟨e | contents, w'⟩
    · exact ⟨.unread hr, hb, hs⟩
    · have hload := ProfileMap.Step.loaded (m := .ofList s.profiles) hr
      rw [ProfileMap.profiles_ofContents, ← ProfileMap.ofList_workingSet] at hload
      exact ⟨hload, rfl, isProfileSet_workingSet contents⟩
  | list =>
    have hl := ProfileMap.Step.listed (b := b) (m := .ofList s.profiles) (w := w)
    rw [ProfileMap.profiles_ofList hs.distinct] at hl
    exact ⟨hl, hb, hs⟩
  | get server => exact ⟨.got, hb, hs⟩
  | save p =>
    by_cases hroom : (ProfileMap.ofList s.profiles).HasRoom p
    · have hnext := hs.upsert ((ProfileMap.hasRoom_ofList_iff _ _).1 hroom)
      have hput : ((ProfileMap.ofList s.profiles).put p).profiles = upsert p s.profiles := by
        rw [← ProfileMap.ofList_upsert, ProfileMap.profiles_ofList hnext.distinct]
      simp only [StoreRequest.run, save_of_hasRoom hroom]
      rcases commit_cases hb (upsert p s.profiles) w with ⟨w', hw, hc⟩ | ⟨e, w', hw, hc⟩ <;>
        rw [← hput] at hw <;> rw [hc]
      · refine ⟨?_, hb, hnext⟩
        rw [ProfileMap.ofList_upsert]
        exact .saved hroom hw
      · exact ⟨.unsaved hroom hw, hb, hs⟩
    · obtain ⟨hn, hl⟩ := length_of_not_hasRoom hs hroom
      simp only [StoreRequest.run, save_of_not_hasRoom hroom, hl]
      refine ⟨.refused hn ?_, hb, hs⟩
      rw [ProfileMap.ofList, List.length_map, hl]
  | delete server =>
    cases hf : findProfile? s.profiles server with
    | none =>
      have hn := (findProfile?_eq_none_iff _ _).1 hf
      simp only [StoreRequest.run, delete, get?, hf]
      exact ⟨.absent hn, hb, hs⟩
    | some p =>
      have hnext := hs.removeServer server
      have hremove : ((ProfileMap.ofList s.profiles).remove server).profiles =
          removeServer server s.profiles := by
        rw [← ProfileMap.ofList_removeServer server hs.distinct,
          ProfileMap.profiles_ofList hnext.distinct]
      simp only [StoreRequest.run, delete, get?, hf]
      rcases commit_cases hb (removeServer server s.profiles) w with
        ⟨w', hw, hc⟩ | ⟨e, w', hw, hc⟩ <;> rw [← hremove] at hw <;> rw [hc]
      · refine ⟨?_, hb, hnext⟩
        rw [ProfileMap.ofList_removeServer server hs.distinct]
        exact .deleted hf hw
      · exact ⟨.undeleted hf hw, hb, hs⟩

/-- The requests of a store are a run of the map. -/
theorem run_serve (hb : s.backend = b) (hs : IsProfileSet s.profiles)
    (requests : List (StoreRequest × W)) :
    let x := s.serve requests
    ProfileMap.Run b (.ofList s.profiles) x.1 (.ofList x.2.profiles) ∧ x.2.backend = b ∧
      IsProfileSet x.2.profiles := by
  induction requests generalizing s with
  | nil => exact ⟨.nil _, hb, hs⟩
  | cons x requests ih =>
    obtain ⟨request, w⟩ := x
    obtain ⟨hstep, hb', hs'⟩ := step_run hb hs request w
    obtain ⟨hrun, hlast⟩ := ih hb' hs'
    exact ⟨.cons hstep hrun, hlast⟩

end ProfileStore

/-! ## The backends that there are -/

/-- Where profiles are kept: on the lines of a flat file, or in the sections of a document. -/
inductive ProfilePlace
  | lines (path : FilePath) (dialect : Dialect)
  | sections (file : DocumentFile)

namespace ProfilePlace

def backend : ProfilePlace → Backend Disk
  | lines path dialect => flatFile path dialect
  | sections file => sectionFile file

/-- A file that is replaced fails only by a step on it. -/
theorem exists_io_of_writeAtomic {path : FilePath} {bytes : ByteArray} {d : Disk} {e : StoreError}
    (h : (d.writeAtomic path bytes).1 = .error e) :
    ∃ operation source, e = .io path.shown operation source := by
  unfold Disk.writeAtomic at h
  rcases hp : d.createParents path with ⟨_ | _, d₁⟩ <;> simp only [hp] at h
  · cases h
    exact ⟨_, _, rfl⟩
  · rcases hw : d₁.write (Disk.tempPath path) bytes with ⟨_ | _, d₂⟩ <;> simp only [hw] at h
    · cases h
      exact ⟨_, _, rfl⟩
    · rcases hr : d₂.rename (Disk.tempPath path) path with ⟨_ | _, d₃⟩ <;> simp only [hr] at h
      · cases h
        exact ⟨_, _, rfl⟩
      · cases h

/-- A document that cannot be read does not hold too many profiles. -/
theorem ne_tooManyProfiles_of_read {file : DocumentFile} {d : Disk} {e : StoreError}
    (h : (file.read d).1 = .error e) (count largest : Nat) :
    e ≠ .tooManyProfiles count largest := by
  unfold DocumentFile.read DocumentFile.readText at h
  grind

/-- No backend says of itself that there are too many profiles. -/
theorem writeAll_ne_tooManyProfiles (place : ProfilePlace) (profiles : List Profile) (d : Disk)
    (count largest : Nat) :
    (place.backend.writeAll profiles d).1 ≠ .error (.tooManyProfiles count largest) := by
  have hatomic (path : FilePath) (bytes : ByteArray) (d : Disk) :
      (d.writeAtomic path bytes).1 ≠ .error (.tooManyProfiles count largest) := by
    intro h
    obtain ⟨_, _, he⟩ := exists_io_of_writeAtomic h
    cases he
  cases place with
  | lines path dialect => exact hatomic path (textOfProfiles dialect profiles).toUTF8 d
  | sections file =>
    simp only [backend, sectionFile]
    rcases hr : file.read d with ⟨e | t, d₁⟩
    · exact fun h => ne_tooManyProfiles_of_read (congrArg Prod.fst hr) count largest
        (Except.error.inj h)
    · exact hatomic file.path (file.format.write (putProfiles t profiles)).toUTF8 d₁

/-- **A store is a map in order**, wherever its profiles are kept. Whatever it is asked, and
whatever the disk does at each request, its answers are those of the map; its list is that of the
map, with no two profiles for one server and not too many; and it says that there are too many
exactly if a profile is new and the store is full. -/
theorem serve_isRun (place : ProfilePlace) (requests : List (StoreRequest × Disk)) :
    let x := (ProfileStore.ofBackend place.backend).serve requests
    let m := ProfileMap.ofList x.2.profiles
    ProfileMap.Run place.backend (.ofList []) x.1 m ∧ m.profiles = x.2.profiles ∧
      m.servers.Nodup ∧ m.servers.length ≤ maxProfiles ∧
      ∀ p d, (∃ count largest, (x.2.save p d).1 = .error (.tooManyProfiles count largest)) ↔
        p.serverAddr ∉ m.servers ∧ m.servers.length = maxProfiles := by
  intro x m
  have hempty : IsProfileSet [] := ⟨List.nodup_nil, Nat.zero_le _⟩
  obtain ⟨hrun, hb, hs⟩ :=
    ProfileStore.run_serve (s := .ofBackend place.backend) rfl hempty requests
  have hlength : m.servers.length = x.2.profiles.length := List.length_map _
  refine ⟨hrun, ProfileMap.profiles_ofList hs.distinct, hs.distinct, ?_, fun p d => ?_⟩
  · rw [hlength]
    exact hs.bounded
  · by_cases hroom : m.HasRoom p
    · rw [ProfileStore.save_of_hasRoom hroom]
      refine iff_of_false ?_ ?_
      · rintro ⟨count, largest, he⟩
        rcases ProfileStore.commit_cases hb (upsert p x.2.profiles) d with
          ⟨d', hw, hc⟩ | ⟨e, d', hw, hc⟩ <;> rw [hc] at he
        · cases he
        · cases he
          exact writeAll_ne_tooManyProfiles place _ d count largest (congrArg Prod.fst hw)
      · rintro ⟨hn, hl⟩
        rcases hroom with hm | hlt
        · exact hn hm
        · exact absurd hl (Nat.ne_of_lt hlt)
    · obtain ⟨hn, hl⟩ := ProfileStore.length_of_not_hasRoom hs hroom
      rw [ProfileStore.save_of_not_hasRoom hroom]
      exact iff_of_true ⟨_, _, rfl⟩ ⟨hn, hlength.trans hl⟩

end ProfilePlace

end ProxyControl
