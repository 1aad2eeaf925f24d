import ProxyControl.Store.Profiles

/-!
# Working sets

A working set has no two profiles for one server, no profile without a server, and not more profiles
than a store holds. What is loaded is such a set, and every change leaves one; loading it again
changes nothing.

A profile without a server can be saved all the same, though it would not be read back; of a store
where that may happen the other two facts are left.

## Main definitions

* `IsProfileSet`: what holds of the profiles of every store
* `IsWorkingSet`: what holds of every working set where no profile without a server was saved

## Main results

* `isProfileSet_workingSet`, `isWorkingSet_workingSet`: what is loaded is such a set
* `IsProfileSet.upsert`, `IsProfileSet.removeServer`: changes
* `IsWorkingSet.workingSet_eq`: a working set that is loaded again is the same
-/

set_option autoImplicit false

namespace ProxyControl

/-- What holds of the profiles of every store. -/
structure IsProfileSet (profiles : List Profile) : Prop where
  /-- No two profiles are for one server. -/
  distinct : (profiles.map (·.serverAddr)).Nodup
  /-- There are not more profiles than a store holds. -/
  bounded : profiles.length ≤ maxProfiles

/-- What holds of every working set. -/
structure IsWorkingSet (profiles : List Profile) : Prop where
  /-- No two profiles are for one server. -/
  distinct : (profiles.map (·.serverAddr)).Nodup
  /-- Every profile has a server. -/
  named : ∀ p ∈ profiles, p.serverAddr ≠ ""
  /-- There are not more profiles than a store holds. -/
  bounded : profiles.length ≤ maxProfiles

/-! ## Loading -/

theorem mem_firstOfEachFrom {seen : List String} {profiles : List Profile} {p : Profile}
    (h : p ∈ firstOfEachFrom seen profiles) : p ∈ profiles ∧ p.serverAddr ∉ seen := by
  induction profiles generalizing seen with
  | nil => cases h
  | cons q profiles ih =>
    unfold firstOfEachFrom at h
    split at h
    · exact (ih h).imp_left (List.mem_cons_of_mem q)
    · next hq =>
      rcases List.mem_cons.1 h with rfl | h
      · exact ⟨List.mem_cons_self, hq⟩
      · obtain ⟨hp, hs⟩ := ih h
        exact ⟨List.mem_cons_of_mem q hp, fun hmem => hs (List.mem_cons_of_mem _ hmem)⟩

theorem nodup_firstOfEachFrom (seen : List String) (profiles : List Profile) :
    ((firstOfEachFrom seen profiles).map (·.serverAddr)).Nodup := by
  induction profiles generalizing seen with
  | nil => exact List.nodup_nil
  | cons q profiles ih =>
    unfold firstOfEachFrom
    split
    · exact ih seen
    -- the server of `q` is among those seen by what follows
    · refine List.nodup_cons.2 ⟨fun hmem => ?_, ih _⟩
      obtain ⟨p, hp, hpq⟩ := List.mem_map.1 hmem
      exact (mem_firstOfEachFrom hp).2 (hpq ▸ List.mem_cons_self)

/-- Nothing is left out where no two profiles are for one server. -/
theorem firstOfEachFrom_eq {seen : List String} {profiles : List Profile}
    (hd : (profiles.map (·.serverAddr)).Nodup) (hs : ∀ p ∈ profiles, p.serverAddr ∉ seen) :
    firstOfEachFrom seen profiles = profiles := by
  induction profiles generalizing seen with
  | nil => rfl
  | cons q profiles ih =>
    obtain ⟨hq, hd⟩ := List.nodup_cons.1 hd
    rw [firstOfEachFrom, if_neg (hs q List.mem_cons_self), ih hd]
    intro p hp hmem
    rcases List.mem_cons.1 hmem with h | h
    · exact hq (List.mem_map.2 ⟨p, hp, h⟩)
    · exact hs p (List.mem_cons_of_mem q hp) h

/-- The servers are those of all profiles, each where it comes first, without those seen before. -/
theorem map_firstOfEachFrom (seen : List String) (profiles : List Profile) :
    (firstOfEachFrom seen profiles).map (·.serverAddr) =
      ((profiles.map (·.serverAddr)).filter (· ∉ seen)).eraseDups := by
  induction profiles generalizing seen with
  | nil => rfl
  | cons q profiles ih =>
    rw [firstOfEachFrom, List.map_cons]
    by_cases hq : q.serverAddr ∈ seen
    · rw [if_pos hq, ih, List.filter_cons_of_neg (by simpa using hq)]
    · rw [if_neg hq, List.filter_cons_of_pos (by simpa using hq), List.map_cons, ih,
        List.eraseDups_cons, List.filter_filter]
      congr 3
      funext server
      by_cases hs : server = q.serverAddr <;> simp [hs]

/-- What is loaded has no two profiles for one server, and not too many. -/
theorem isProfileSet_workingSet (profiles : List Profile) :
    IsProfileSet (ProfileStore.workingSet profiles) where
  distinct := by
    have hd := nodup_firstOfEachFrom [] profiles
    exact hd.sublist ((List.take_sublist ..).map _)
  bounded := List.length_take_le ..

/-- What is loaded is a working set. -/
theorem isWorkingSet_workingSet {profiles : List Profile}
    (h : ∀ p ∈ profiles, p.serverAddr ≠ "") : IsWorkingSet (ProfileStore.workingSet profiles) where
  distinct := (isProfileSet_workingSet profiles).distinct
  named p hp := h p (mem_firstOfEachFrom ((List.take_sublist ..).mem hp)).1
  bounded := (isProfileSet_workingSet profiles).bounded

/-! ## Changes -/

/-- A profile takes the place of the one for its server, or the last place. -/
theorem map_upsert (p : Profile) (profiles : List Profile) :
    (upsert p profiles).map (·.serverAddr) =
      if p.serverAddr ∈ profiles.map (·.serverAddr) then profiles.map (·.serverAddr)
      else profiles.map (·.serverAddr) ++ [p.serverAddr] := by
  induction profiles with
  | nil => rfl
  | cons q profiles ih =>
    unfold upsert
    by_cases h : q.serverAddr = p.serverAddr
    · simp [h]
    · rw [if_neg h, List.map_cons, ih]
      by_cases hm : p.serverAddr ∈ profiles.map (·.serverAddr)
      · simp [hm]
      · simp only [hm, if_false, List.map_cons, List.mem_cons, Ne.symm h, or_self, List.cons_append]

theorem eq_or_mem_of_mem_upsert {p q : Profile} {profiles : List Profile}
    (h : q ∈ upsert p profiles) : q = p ∨ q ∈ profiles := by
  induction profiles with
  | nil => exact .inl (List.mem_singleton.1 h)
  | cons r profiles ih =>
    unfold upsert at h
    split at h
    · rcases List.mem_cons.1 h with h | h
      · exact .inl h
      · exact .inr (List.mem_cons_of_mem r h)
    · rcases List.mem_cons.1 h with rfl | h
      · exact .inr List.mem_cons_self
      · exact (ih h).imp_right (List.mem_cons_of_mem r)

theorem map_removeServer (server : String) (profiles : List Profile) :
    (removeServer server profiles).map (·.serverAddr) =
      (profiles.map (·.serverAddr)).erase server := by
  induction profiles with
  | nil => rfl
  | cons q profiles ih =>
    unfold removeServer at *
    by_cases h : q.serverAddr = server
    · simp [h]
    · simp [h, ih]

/-! ## The profile of a server -/

theorem findProfile?_cons (q : Profile) (profiles : List Profile) (server : String) :
    findProfile? (q :: profiles) server =
      if q.serverAddr = server then some q else findProfile? profiles server := by
  by_cases h : q.serverAddr = server <;> simp [findProfile?, h]

/-- There is a profile for a server exactly if one of the profiles has its address. -/
theorem findProfile?_eq_none_iff (profiles : List Profile) (server : String) :
    findProfile? profiles server = none ↔ server ∉ profiles.map (·.serverAddr) := by
  simp [findProfile?, List.find?_eq_none]

/-- The first profile for a server is found in all of them, and none for a server seen before. -/
theorem findProfile?_firstOfEachFrom (seen : List String) (profiles : List Profile)
    (server : String) : findProfile? (firstOfEachFrom seen profiles) server =
      if server ∈ seen then none else findProfile? profiles server := by
  induction profiles generalizing seen with
  | nil => split <;> rfl
  | cons q profiles ih =>
    rw [firstOfEachFrom, findProfile?_cons]
    by_cases hq : q.serverAddr ∈ seen
    · rw [if_pos hq, ih]
      by_cases hs : server ∈ seen
      · rw [if_pos hs, if_pos hs]
      · have hne : q.serverAddr ≠ server := fun h => hs (h ▸ hq)
        rw [if_neg hs, if_neg hs, if_neg hne]
    · rw [if_neg hq, findProfile?_cons, ih]
      by_cases hs : q.serverAddr = server
      · subst hs
        rw [if_pos rfl, if_pos rfl, if_neg hq]
      · have hiff : server ∈ q.serverAddr :: seen ↔ server ∈ seen := by
          rw [List.mem_cons, or_iff_right (Ne.symm hs)]
        simp only [hs, if_false, hiff]

/-- A profile is found under its server where no other one is for that. -/
theorem findProfile?_of_mem {profiles : List Profile} (hd : (profiles.map (·.serverAddr)).Nodup)
    {p : Profile} (hp : p ∈ profiles) : findProfile? profiles p.serverAddr = some p := by
  induction profiles with
  | nil => cases hp
  | cons q profiles ih =>
    obtain ⟨hq, hd⟩ := List.nodup_cons.1 hd
    rw [findProfile?_cons]
    rcases List.mem_cons.1 hp with rfl | hp
    · exact if_pos rfl
    · rw [if_neg fun h : q.serverAddr = p.serverAddr => hq (List.mem_map.2 ⟨p, hp, h.symm⟩)]
      exact ih hd hp

/-- Among the first ones of some profiles, a server has its profile, or none. -/
theorem findProfile?_take {profiles : List Profile} (hd : (profiles.map (·.serverAddr)).Nodup)
    (n : Nat) (server : String) : findProfile? (profiles.take n) server =
      if server ∈ (profiles.map (·.serverAddr)).take n then findProfile? profiles server
      else none := by
  rw [← List.map_take]
  split
  · next hm =>
    obtain ⟨p, hp, rfl⟩ := List.mem_map.1 hm
    have hsub := (List.take_sublist n profiles)
    rw [findProfile?_of_mem (hd.sublist (hsub.map _)) hp, findProfile?_of_mem hd (hsub.mem hp)]
  · next hm => exact (findProfile?_eq_none_iff _ _).2 hm

/-- A profile that was saved is found under its server, and for the others nothing changes. -/
theorem findProfile?_upsert (p : Profile) (profiles : List Profile) (server : String) :
    findProfile? (upsert p profiles) server =
      if server = p.serverAddr then some p else findProfile? profiles server := by
  induction profiles with
  | nil => simp [upsert, findProfile?, eq_comm]
  | cons q profiles ih =>
    unfold upsert
    by_cases h : q.serverAddr = p.serverAddr
    · rw [if_pos h, findProfile?_cons, findProfile?_cons, h]
      by_cases hs : p.serverAddr = server
      · rw [if_pos hs, if_pos hs.symm]
      · rw [if_neg hs, if_neg hs, if_neg (Ne.symm hs)]
    · rw [if_neg h, findProfile?_cons, ih, findProfile?_cons]
      by_cases hs : q.serverAddr = server
      · rw [if_pos hs, if_pos hs, if_neg fun hp => h (hs.trans hp)]
      · rw [if_neg hs, if_neg hs]

/-- A server that was deleted has no profile, and for the others nothing changes. -/
theorem findProfile?_removeServer (server : String) {profiles : List Profile}
    (hd : (profiles.map (·.serverAddr)).Nodup) (other : String) :
    findProfile? (removeServer server profiles) other =
      if other = server then none else findProfile? profiles other := by
  by_cases ho : other = server
  · subst ho
    rw [if_pos rfl, findProfile?_eq_none_iff, map_removeServer]
    exact hd.not_mem_erase
  · rw [if_neg ho]
    clear hd
    induction profiles with
    | nil => rfl
    | cons q profiles ih =>
      by_cases h : q.serverAddr = server
      · simp [removeServer, findProfile?_cons, h, Ne.symm ho]
      · rw [removeServer, List.eraseP_cons_of_neg (by simpa using h), findProfile?_cons,
          findProfile?_cons]
        exact congrArg (ite _ (some q)) ih

namespace IsProfileSet

variable {profiles : List Profile}

/-- A profile can be added where there is room, or where there is one for its server. -/
theorem upsert (h : IsProfileSet profiles) {p : Profile}
    (hb : findProfile? profiles p.serverAddr = none → profiles.length < maxProfiles) :
    IsProfileSet (upsert p profiles) where
  distinct := by
    rw [map_upsert]
    split
    · exact h.distinct
    · next hn => exact List.nodup_append.2 ⟨h.distinct, by simp, by simpa using hn⟩
  bounded := by
    have hl := congrArg List.length (map_upsert p profiles)
    rw [List.length_map] at hl
    rw [hl]
    split
    · rw [List.length_map]
      exact h.bounded
    · next hn =>
      have hroom := hb ((findProfile?_eq_none_iff _ _).2 hn)
      rw [List.length_append, List.length_map]
      exact hroom

theorem removeServer (h : IsProfileSet profiles) (server : String) :
    IsProfileSet (removeServer server profiles) where
  distinct := h.distinct.sublist ((List.eraseP_sublist ..).map _)
  bounded := Nat.le_trans (List.eraseP_sublist ..).length_le h.bounded

end IsProfileSet

namespace IsWorkingSet

variable {profiles : List Profile}

theorem isProfileSet (h : IsWorkingSet profiles) : IsProfileSet profiles := ⟨h.distinct, h.bounded⟩

/-- A working set that is loaded again is the same. -/
theorem workingSet_eq (h : IsWorkingSet profiles) :
    ProfileStore.workingSet profiles = profiles := by
  rw [ProfileStore.workingSet, firstOfEach, firstOfEachFrom_eq h.distinct (by simp),
    List.take_of_length_le h.bounded]

theorem of_perm {others : List Profile} (h : IsWorkingSet profiles) (hp : others.Perm profiles) :
    IsWorkingSet others where
  distinct := (hp.map _).nodup_iff.2 h.distinct
  named p hm := h.named p (hp.mem_iff.1 hm)
  bounded := hp.length_eq ▸ h.bounded

/-- A profile with a server is upserted where there is room for it. -/
theorem upsert (h : IsWorkingSet profiles) {p : Profile} (hp : p.serverAddr ≠ "")
    (hroom : findProfile? profiles p.serverAddr = none → profiles.length < maxProfiles) :
    IsWorkingSet (upsert p profiles) := by
  have hset := h.isProfileSet.upsert hroom
  refine ⟨hset.distinct, fun q hq => ?_, hset.bounded⟩
  rcases eq_or_mem_of_mem_upsert hq with rfl | hq
  · exact hp
  · exact h.named q hq

end IsWorkingSet

end ProxyControl
