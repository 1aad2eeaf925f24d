import ProxyControl.Proofs.Files.Changes

/-!
# Replacements that fail

A replacement that fails leaves the file as it was. But a path that could not be followed for want
of a directory may lead somewhere else once the directory is there, and then a failed replacement is
seen after all: a path that goes up out of a missing directory ends where the rest of it leads. A
path that does not go up has nothing at its end as long as only directories on its way are created.

## Main definitions

* `FilePath.IsStraight`: a path that does not go up
* `FileTree.Beside`: a tree that was changed at most beside a file

## Main results

* `Disk.read?_of_writeAtomic_error`: what a replacement that fails leaves
-/

set_option autoImplicit false

namespace ProxyControl

namespace FileTree

variable {t u : FileTree} {path q : FilePath}

theorem walk_append {here there : Place} {names more : List String} :
    t.walk here (names ++ more) = .ok there ↔
      ∃ mid, t.walk here names = .ok mid ∧ t.walk mid more = .ok there := by
  induction names generalizing here with
  | nil => simp [walk]
  | cons name names ih =>
    rw [List.cons_append, walk, walk]
    split
    · exact ih
    · split
      · exact ih
      · split
        · simp
        · simp
        · simp
        · exact ih

/-- Lone points lead nowhere. -/
theorem walk_dots {here : Place} {dots : List String} (h : ∀ n ∈ dots, n = ".") :
    t.walk here dots = .ok here := by
  induction dots with
  | nil => rfl
  | cons n dots ih =>
    rw [walk, if_pos (h n List.mem_cons_self)]
    exact ih fun m hm => h m (List.mem_cons_of_mem n hm)

/-- A walk goes on along a name only where it stands for a directory. -/
theorem walk_cons {here there : Place} {name : String} {more : List String}
    (hp : name ≠ ".") (hu : name ≠ "..") (h : t.walk here (name :: more) = .ok there) :
    ¬maxNameSize < name.utf8ByteSize ∧ t.content? (here ++ [name]) = some .directory := by
  rw [walk, if_neg hp, if_neg hu] at h
  split at h
  · cases h
  · cases h
  · cases h
  · next hc => exact child?_eq_ok hc

theorem locate_eq_ok {r : Route} {there : Place} (hr : path.route = .ok r)
    (hs : t.content? r.start = some .directory) (hw : t.walk r.start r.way = .ok there) :
    t.locate path = .ok ⟨there, r⟩ := by
  unfold locate
  rw [hr]
  simp only [bind, Except.bind, hs, ne_eq, not_true, if_false, hw]
  rfl

/-- The paths above a path that can be followed lead to directories. -/
theorem isDirectory_of_mem_above {x : Target} (hx : t.locate path = .ok x) (hq : q ∈ path.above) :
    t.isDirectory q = true := by
  obtain ⟨hr, hs, hw⟩ := locate_ok hx
  obtain ⟨r, hr', hstart, more, hway⟩ := FilePath.route_of_mem_above hr hq
  rw [hway] at hw
  obtain ⟨mid, hmid, hw⟩ := walk_append.1 hw
  rw [← hstart] at hs hmid
  refine isDirectory_iff.2 ⟨_, locate_eq_ok hr' hs hmid, fun hn => ?_⟩
  obtain ⟨⟨-, hpoint⟩, hup⟩ : (¬r.last = "" ∧ ¬r.last = ".") ∧ ¬r.last = ".." := by
    simpa [Route.isNamed] using hn
  exact walk_cons hpoint hup hw

end FileTree

/-- A path that does not go up, and whose names are not too long. -/
def FilePath.IsStraight (p : FilePath) : Prop :=
  ∀ name ∈ namesOf p.shown.toList, name ≠ ".." ∧ ¬maxNameSize < name.utf8ByteSize

namespace FileTree

variable {t u : FileTree} {path q : FilePath} {r : Route} {base name : String}

theorem walk_append_of_ok {here mid : Place} {names : List String}
    (h : t.walk here names = .ok mid) (more : List String) :
    t.walk here (names ++ more) = t.walk mid more := by
  induction names generalizing here with
  | nil =>
    cases h
    rfl
  | cons name names ih =>
    rw [walk] at h
    rw [List.cons_append, walk]
    split at h
    · next hp => rw [if_pos hp, ih h]
    · next hp =>
      rw [if_neg hp]
      split at h
      · next hu => rw [if_pos hu, ih h]
      · next hu =>
        rw [if_neg hu]
        split at h
        · cases h
        · cases h
        · cases h
        · exact ih h

/-- A way that does not go up ends at once where there is nothing. -/
theorem walk_of_vacant {here : Place} {names : List String}
    (hv : ∀ name, t.content? (here ++ [name]) = none)
    (hn : ∀ name ∈ names, name ≠ ".." ∧ ¬maxNameSize < name.utf8ByteSize) :
    t.walk here names = .ok here ∨ t.walk here names = .error .notFound := by
  induction names with
  | nil => exact .inl rfl
  | cons name names ih =>
    obtain ⟨hup, hl⟩ := hn name List.mem_cons_self
    rw [walk]
    split
    · exact ih fun m hm => hn m (List.mem_cons_of_mem name hm)
    · right
      rw [child?, if_neg hl, hv]

theorem read?_of_locate_error {e : IoError} (h : t.locate path = .error e) :
    t.read? path = .error e := by
  unfold read? find?
  rw [h]
  rfl

theorem locate_of_walk_error {e : IoError} (hr : path.route = .ok r)
    (hs : t.content? r.start = some .directory) (hw : t.walk r.start r.way = .error e) :
    t.locate path = .error e := by
  unfold locate
  rw [hr]
  simp only [bind, Except.bind, hs, ne_eq, not_true, if_false, hw]

theorem read?_of_route_error {e : IoError} (h : path.route = .error e) (t : FileTree) :
    t.read? path = .error e := by
  refine read?_of_locate_error ?_
  unfold locate
  rw [h]
  rfl

/-- There is nothing at the end of a path that does not go up, as long as only directories on its
way are created. -/
theorem read?_of_createDir (hname : IsPlainName name) (hp : path.shown = joinPath base name)
    (hs : path.IsStraight) (hq : q ∈ path.above) {fault : Option Fault}
    {answer : Except IoError Unit} (hc : t.createDir fault q = (answer, u))
    (h : t.read? path = .error .notFound) : u.read? path = .error .notFound := by
  cases hr : path.route with
  | error e => rwa [read?_of_route_error hr] at h ⊢
  | ok r =>
    have hkept := (change_createDir hc).keeps
    rcases createDir_cases hc with ⟨e, -, rfl⟩ | ⟨-, z, hz, hzn, hzl, hnone, rfl⟩
    · exact h
    obtain ⟨hway, hlast, hnamed, -⟩ := FilePath.route_joinPath hname hp hr
    obtain ⟨r', hr', hstart, more, hsplit⟩ := FilePath.route_of_mem_above hr hq
    obtain ⟨hzr, hzs, hzw⟩ := locate_ok (locate_congr hkept hz)
    cases hr'.symm.trans hzr
    rw [hstart] at hzs hzw
    have hnames : ∀ n ∈ r.way ++ [r.last], n ≠ ".." ∧ ¬maxNameSize < n.utf8ByteSize := by
      rw [hway, hlast, ← namesOf_joinPath hname.noSlash hname.ne_empty, ← hp]
      exact hs
    have hcontent := content?_set_directory hz hnone
    have hvacant (n : String) : (t.set z.place .directory).content? (z.place ++ [n]) = none := by
      rw [hcontent, if_neg (by simp)]
      refine Decidable.byContradiction fun hne => ?_
      have hdir := content?_of_append n [] hne
      rw [hnone] at hdir
      cases hdir
    have hwalk : (t.set z.place .directory).walk r.start r.way =
        (t.set z.place .directory).walk z.place more := by
      obtain ⟨⟨-, hpoint⟩, hup⟩ :
          (¬z.route.last = "" ∧ ¬z.route.last = ".") ∧ ¬z.route.last = ".." := by
        simpa [Route.isNamed] using hzn
      have hchild : (t.set z.place .directory).child? z.directory z.route.last =
          .ok (some .directory) := by
        rw [child?, if_neg hzl]
        exact congrArg Except.ok ((hcontent z.place).trans (if_pos rfl))
      rw [hsplit, walk_append_of_ok hzw, walk, if_neg hpoint, if_neg hup, hchild]
      rfl
    have hmore : ∀ n ∈ more, n ≠ ".." ∧ ¬maxNameSize < n.utf8ByteSize :=
      fun n hn => hnames n (by simp [hsplit, hn])
    rcases walk_of_vacant hvacant hmore with hw | hw
    · have hfound := locate_eq_ok hr hzs (hwalk.trans hw)
      have hchild : (t.set z.place .directory).child? z.place r.last = .ok none := by
        rw [child?, if_neg (hnames r.last (by simp)).2, hvacant]
      simp [read?, find?, hfound, hnamed, hchild, bind, Except.bind, pure, Except.pure]
      rfl
    · exact read?_of_locate_error (locate_of_walk_error hr hzs (hwalk.trans hw))

/-- What steps on the path beside a path have done: nothing, or something at its last name only. -/
def Beside (path : FilePath) (t u : FileTree) : Prop :=
  u = t ∨ ∃ x, t.locate (Disk.tempPath path) = .ok x ∧ t.KeepsDirectories u ∧
    ∀ place, place ≠ x.place → u.content? place = t.content? place

theorem Beside.trans {v : FileTree} (h : Beside path t u) (h' : Beside path u v) :
    Beside path t v := by
  rcases h with rfl | ⟨x, hx, hkept, hall⟩
  · exact h'
  · rcases h' with rfl | ⟨x', hx', hkept', hall'⟩
    · exact .inr ⟨x, hx, hkept, hall⟩
    · cases (locate_congr hkept hx).symm.trans hx'
      refine .inr ⟨x, hx, fun place hd => hkept' place (hkept place hd), fun place hne => ?_⟩
      rw [hall' place hne, hall place hne]

/-- Steps beside a file leave the file alone. -/
theorem Beside.read? (h : Beside path t u) (hname : IsPlainName name)
    (hp : path.shown = joinPath base name) : u.read? path = t.read? path := by
  rcases h with rfl | ⟨x, hx, hkept, hall⟩
  · rfl
  cases hr : path.route with
  | error e => rw [read?_of_route_error hr, read?_of_route_error hr]
  | ok r =>
    obtain ⟨hr', hs, hw⟩ := locate_ok hx
    obtain ⟨hstart, hlast, dots, hdots, hway⟩ := FilePath.route_tempPath hname hp hr hr'
    obtain ⟨-, hlast', -⟩ := FilePath.route_joinPath hname hp hr
    have hwalk : t.walk r.start r.way = .ok x.directory := by
      rw [hway, ← hstart, walk_append_of_ok hw, walk_dots hdots]
    rw [hstart] at hs
    have hy := locate_eq_ok hr hs hwalk
    refine read?_congr hy (locate_congr hkept hy) (hall _ fun hplace => ?_)
    have hnames : r.last = x.route.last := by
      have := congrArg List.getLast? hplace
      simpa [Target.place] using this
    rw [hlast, hlast'] at hnames
    exact beside_ne name hnames.symm

end FileTree

namespace Disk

variable {d d' : Disk} {path : FilePath} {bytes : ByteArray} {base name : String}

/-- A replacement that fails has created directories, and then done something beside the file. -/
theorem beside_of_writeAtomic_error {e : StoreError}
    (h : d.writeAtomic path bytes = (.error e, d')) :
    ∃ answer d₁, d.createParents path = (answer, d₁) ∧
      FileTree.Beside path d₁.tree d'.tree := by
  unfold writeAtomic at h
  rcases hp : d.createParents path with ⟨_ | _, d₁⟩ <;> simp only [hp] at h
  · cases h
    exact ⟨_, _, rfl, .inl rfl⟩
  · refine ⟨_, d₁, rfl, ?_⟩
    have hwritten {answer : Except IoError Unit} {d₂ : Disk}
        (hw : d₁.write (tempPath path) bytes = (answer, d₂)) :
        FileTree.Beside path d₁.tree d₂.tree := by
      rcases FileTree.write_cases (step_eq hw) with ⟨-, ht⟩ | ⟨place, bytes', hwt, -, ht⟩
      · exact .inl ht
      · obtain ⟨x, hx, -, -, -, hd, rfl⟩ := FileTree.writable_iff.1 hwt
        refine .inr ⟨x, hx, ?_, fun place hne => ?_⟩
        · rw [ht]
          exact FileTree.keepsDirectories_set hx hd bytes'
        · rw [ht, FileTree.content?_set_place hx hd, if_neg hne]
    rcases hw : d₁.write (tempPath path) bytes with ⟨_ | _, d₂⟩ <;> simp only [hw] at h
    · cases h
      exact hwritten hw
    · rcases hr : d₂.rename (tempPath path) path with ⟨_ | _, d₃⟩ <;> simp only [hr] at h
      · cases h
        have hsame := FileTree.rename_error (step_eq hr)
        refine (hwritten hw).trans ?_
        rw [← hsame]
        rcases hm : d₃.remove (tempPath path) with ⟨answer, d₄⟩
        rcases FileTree.remove_cases (step_eq hm) with ht | ⟨x, hx, hd, ht⟩
        · exact .inl ht
        · refine .inr ⟨x, hx, ?_, fun place hne => ?_⟩
          · rw [ht]
            exact (FileTree.change_erase hx hd).keeps
          · rw [ht, FileTree.content?_erase_place hx hd, if_neg hne]
      · cases h

/-- **What a replacement that fails leaves.** The file has its old bytes, if its path could be
followed; and if it could not and the path does not go up, there is still no file. -/
theorem read?_of_writeAtomic_error {e : StoreError} (hname : IsPlainName name)
    (hp : path.shown = joinPath base name) (h : d.writeAtomic path bytes = (.error e, d')) :
    (∀ x, d.tree.locate path = .ok x → d'.tree.read? path = d.tree.read? path) ∧
      (path.IsStraight → d.tree.read? path = .error .notFound →
        d'.tree.read? path = .error .notFound) := by
  obtain ⟨answer, d₁, hc, hbeside⟩ := beside_of_writeAtomic_error h
  have hfile := hbeside.read? hname hp
  constructor
  · intro x hx
    have hsame : d₁.tree = d.tree := by
      refine createParents_induction (I := fun t => t = d.tree) ?_ hc rfl
      rintro q hq t u fault answer hcreate rfl
      rw [FileTree.createDir_of_isDirectory (FileTree.isDirectory_of_mem_above hx hq)] at hcreate
      exact (Prod.mk.inj hcreate).2.symm
    rw [hfile, hsame]
  · intro hs hnone
    rw [hfile]
    refine createParents_induction (I := fun t => t.read? path = .error .notFound) ?_ hc hnone
    intro q hq t u fault answer hcreate ht
    exact FileTree.read?_of_createDir hname hp hs hq hcreate ht

end Disk

end ProxyControl
