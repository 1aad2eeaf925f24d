import ProxyControl.Proofs.Files.Names
import ProxyControl.Proofs.Files.Replacement

/-!
# Trees that are changed

Each change to a tree is one to the place that a path leads to. So a tree after some changes is told
by the places that were touched: no directory was taken away, and at every other place there is what
there was, or a directory where there was nothing.

## Main definitions

* `FileTree.Change`: a tree that was changed at some places, and where directories were created

## Main results

* `FileTree.createDir_cases`, `FileTree.write_cases`, `FileTree.remove_cases`: what a change does
* `Disk.createParents_induction`: what holds after the directories on the way were created
-/

set_option autoImplicit false

namespace ProxyControl

namespace FileTree

variable {t u v : FileTree} {path : FilePath} {touched : Place → Prop}

/-! ## Changes -/

/-- A tree that was changed at some places: no directory is taken away, and at the other places
there is what there was, or a directory where there was nothing. -/
structure Change (touched : Place → Prop) (t u : FileTree) : Prop where
  keeps : t.KeepsDirectories u
  others : ∀ place, ¬touched place → u.content? place = t.content? place ∨
    t.content? place = none ∧ u.content? place = some .directory

theorem Change.refl (touched : Place → Prop) (t : FileTree) : Change touched t t :=
  ⟨fun _ h => h, fun _ _ => .inl rfl⟩

theorem Change.trans (h : Change touched t u) (h' : Change touched u v) : Change touched t v where
  keeps place hp := h'.keeps place (h.keeps place hp)
  others place hn := by
    rcases h.others place hn with hsame | ⟨hnone, hdir⟩
    · rcases h'.others place hn with hsame' | ⟨hnone', hdir'⟩
      · exact .inl (hsame'.trans hsame)
      · exact .inr ⟨hsame ▸ hnone', hdir'⟩
    · exact .inr ⟨hnone, h'.keeps place hdir⟩

theorem Change.mono {more : Place → Prop} (h : Change touched t u)
    (hm : ∀ place, touched place → more place) : Change more t u :=
  ⟨h.keeps, fun place hn => h.others place fun ht => hn (hm place ht)⟩

/-- A file that is at none of the places is still there. -/
theorem Change.content?_file (h : Change touched t u) {place : Place} {bytes : ByteArray}
    (hn : ¬touched place) (hb : t.content? place = some (.file bytes)) :
    u.content? place = some (.file bytes) := by
  rcases h.others place hn with hsame | ⟨hnone, -⟩
  · exact hsame.trans hb
  · exact absurd (hnone.symm.trans hb) (by simp)

/-- A file put at the last name of a path changes nothing else. -/
theorem change_set_file {x : Target} (h : t.locate path = .ok x)
    (hn : t.content? x.place ≠ some .directory) (bytes : ByteArray) :
    Change (· = x.place) t (t.set x.place (.file bytes)) where
  keeps := keepsDirectories_set h hn bytes
  others place hp := by
    rw [content?_set_place h hn, if_neg hp]
    exact .inl rfl

/-- What there is in a tree without the file at the last name of a path. -/
theorem content?_erase_place {x : Target} (h : t.locate path = .ok x)
    (hn : t.content? x.place ≠ some .directory) (other : Place) :
    (t.erase x.place).content? other = if other = x.place then none else t.content? other := by
  refine content?_erase t (place_ne_nil x) ?_ hn other
  rw [dropLast_place]
  exact directory_of_locate h

theorem change_erase {x : Target} (h : t.locate path = .ok x)
    (hn : t.content? x.place ≠ some .directory) : Change (· = x.place) t (t.erase x.place) where
  keeps place hp := by
    rw [content?_erase_place h hn, if_neg]
    · exact hp
    · rintro rfl
      exact hn hp
  others place hp := by
    rw [content?_erase_place h hn, if_neg hp]
    exact .inl rfl

/-! ## Steps -/

/-- What a path leads to is told by the place of its last name. -/
theorem read?_congr {x : Target} (hx : t.locate path = .ok x) (hx' : u.locate path = .ok x)
    (hc : u.content? x.place = t.content? x.place) : u.read? path = t.read? path := by
  have hchild : u.child? x.directory x.route.last = t.child? x.directory x.route.last := by
    unfold child?
    split
    · rfl
    · exact congrArg Except.ok hc
  unfold read? find?
  rw [hx, hx']
  simp only [bind, Except.bind, hchild]

/-- The bytes of a file are those at the last name of a path. -/
theorem read?_iff {bytes : ByteArray} :
    t.read? path = .ok bytes ↔ ∃ x, t.locate path = .ok x ∧ x.route.isNamed = true ∧
      x.route.isSlashed = false ∧ ¬maxNameSize < x.route.last.utf8ByteSize ∧
        t.content? x.place = some (.file bytes) := by
  unfold read? find?
  constructor
  · intro h
    obtain ⟨found, hf, h⟩ := exists_of_bind_eq_ok h
    obtain ⟨x, hx, hf⟩ := exists_of_bind_eq_ok hf
    by_cases hn : (!x.route.isNamed) = true
    · rw [if_pos hn] at hf
      cases hf
      cases h
    · rw [if_neg hn] at hf
      obtain ⟨child, hc, hf⟩ := exists_of_bind_eq_ok hf
      obtain ⟨hl, hplace⟩ := child?_eq_ok hc
      rcases child with _ | ⟨_ | bytes'⟩
      · cases hf
        cases h
      · cases hf
        cases h
      · dsimp only at hf
        split at hf
        · cases hf
        · next hs =>
          cases hf
          cases h
          exact ⟨x, hx, by simpa using hn, by simpa using hs, hl, hplace⟩
  · rintro ⟨x, hx, hn, hs, hl, hplace⟩
    have hc : t.child? x.directory x.route.last = .ok (some (.file bytes)) := by
      rw [child?, if_neg hl]
      exact congrArg Except.ok hplace
    simp [hx, hn, hs, hc, bind, Except.bind, pure, Except.pure]

/-- A directory is created where nothing was, or nothing is changed. -/
theorem createDir_cases {fault : Option Fault} {answer : Except IoError Unit}
    (h : t.createDir fault path = (answer, u)) :
    (∃ e, answer = .error e ∧ u = t) ∨
      answer = .ok () ∧ ∃ x, t.locate path = .ok x ∧ x.route.isNamed = true ∧
        ¬maxNameSize < x.route.last.utf8ByteSize ∧ t.content? x.place = none ∧
          u = t.set x.place .directory := by
  unfold createDir orAsBefore at h
  split at h
  · next e _ =>
    obtain ⟨rfl, rfl⟩ := Prod.mk.inj h
    exact .inl ⟨e, rfl, rfl⟩
  · next next hc =>
    obtain ⟨rfl, rfl⟩ := Prod.mk.inj h
    right
    split at hc
    · cases hc
    · obtain ⟨x, hx, hc⟩ := exists_of_bind_eq_ok hc
      by_cases hn : (!x.route.isNamed) = true
      · rw [if_pos hn] at hc
        cases hc
      · rw [if_neg hn] at hc
        obtain ⟨found, hf, hc⟩ := exists_of_bind_eq_ok hc
        obtain ⟨hl, hplace⟩ := child?_eq_ok hf
        cases found with
        | some e => cases hc
        | none =>
          cases hc
          exact ⟨rfl, x, hx, by simpa using hn, hl, hplace, rfl⟩

/-- A directory put where nothing was changes nothing else. -/
theorem content?_set_directory {x : Target} (h : t.locate path = .ok x)
    (hn : t.content? x.place = none) (other : Place) :
    (t.set x.place .directory).content? other =
      if other = x.place then some .directory else t.content? other := by
  refine content?_set t (place_ne_nil x) _ ?_ (by simp [hn]) other
  rw [dropLast_place]
  exact directory_of_locate h

theorem change_createDir {fault : Option Fault} {answer : Except IoError Unit}
    (h : t.createDir fault path = (answer, u)) : Change (fun _ => False) t u := by
  rcases createDir_cases h with ⟨e, -, rfl⟩ | ⟨-, x, hx, -, -, hn, rfl⟩
  · exact .refl _ u
  · constructor
    · intro place hp
      rw [content?_set_directory hx hn]
      split
      · rfl
      · exact hp
    · intro place _
      rw [content?_set_directory hx hn]
      split
      · next hp => exact .inr ⟨hp ▸ hn, rfl⟩
      · exact .inl rfl

/-- A path leads to a directory where its last name is one's, or none's. -/
theorem isDirectory_iff :
    t.isDirectory path = true ↔ ∃ x, t.locate path = .ok x ∧ (x.route.isNamed = true →
      ¬maxNameSize < x.route.last.utf8ByteSize ∧ t.content? x.place = some .directory) := by
  unfold isDirectory
  constructor
  · intro h
    split at h
    · next hf =>
      obtain ⟨x, hx, hf⟩ := exists_of_bind_eq_ok hf
      refine ⟨x, hx, fun hn => ?_⟩
      rw [if_neg (by simp [hn])] at hf
      obtain ⟨found, hc, hf⟩ := exists_of_bind_eq_ok hf
      obtain ⟨hl, hplace⟩ := child?_eq_ok hc
      rcases found with _ | ⟨_ | bytes⟩
      · cases hf
      · exact ⟨hl, hplace⟩
      · dsimp only at hf
        split at hf <;> cases hf
    · cases h
  · rintro ⟨x, hx, hd⟩
    have hfound : t.find? path = .ok (some .directory) := by
      unfold find?
      rw [hx]
      cases hn : x.route.isNamed with
      | false => simp [bind, Except.bind, pure, Except.pure, hn]
      | true =>
        obtain ⟨hl, hplace⟩ := hd hn
        have hc : t.child? x.directory x.route.last = .ok (some .directory) := by
          rw [child?, if_neg hl]
          exact congrArg Except.ok hplace
        simp [bind, Except.bind, pure, Except.pure, hn, hc]
    rw [hfound]

/-- A directory that is there cannot be created. -/
theorem createDir_of_isDirectory (h : t.isDirectory path = true) (fault : Option Fault) :
    t.createDir fault path = (.error (fault.elim .alreadyExists Fault.error), t) := by
  obtain ⟨x, hx, hd⟩ := isDirectory_iff.1 h
  unfold createDir orAsBefore
  rw [hx]
  cases fault with
  | some f => rfl
  | none =>
    cases hn : x.route.isNamed with
    | false => simp [bind, Except.bind, hn]; rfl
    | true =>
      obtain ⟨hl, hplace⟩ := hd hn
      have hc : t.child? x.directory x.route.last = .ok (some .directory) := by
        rw [child?, if_neg hl]
        exact congrArg Except.ok hplace
      simp [bind, Except.bind, hn, hc]
      rfl

/-- A directory is one wherever no directory is taken away. -/
theorem isDirectory_of_keeps (h : t.KeepsDirectories u) (hd : t.isDirectory path = true) :
    u.isDirectory path = true := by
  obtain ⟨x, hx, hd⟩ := isDirectory_iff.1 hd
  refine isDirectory_iff.2 ⟨x, locate_congr h hx, fun hn => ?_⟩
  exact (hd hn).imp_right (h _)

/-- A directory that was created is one. -/
theorem isDirectory_of_createDir {fault : Option Fault} (h : t.createDir fault path = (.ok (), u)) :
    u.isDirectory path = true := by
  have hkept := (change_createDir h).keeps
  rcases createDir_cases h with ⟨e, he, -⟩ | ⟨-, x, hx, -, hl, hn, rfl⟩
  · cases he
  · refine isDirectory_iff.2 ⟨x, locate_congr hkept hx, fun _ => ⟨hl, ?_⟩⟩
    rw [content?_set_directory hx hn, if_pos rfl]

/-- Where a file can be written. -/
theorem writable_iff {place : Place} :
    t.writable path = .ok place ↔ ∃ x, t.locate path = .ok x ∧ x.route.isNamed = true ∧
      x.route.isSlashed = false ∧ ¬maxNameSize < x.route.last.utf8ByteSize ∧
        t.content? x.place ≠ some .directory ∧ x.place = place := by
  unfold writable
  constructor
  · intro h
    obtain ⟨x, hx, h⟩ := exists_of_bind_eq_ok h
    by_cases hn : (!x.route.isNamed || x.route.isSlashed) = true
    · rw [if_pos hn] at h
      cases h
    · rw [if_neg hn] at h
      obtain ⟨found, hf, h⟩ := exists_of_bind_eq_ok h
      obtain ⟨hl, hc⟩ := child?_eq_ok hf
      simp only [Bool.or_eq_true, Bool.not_eq_true', not_or, Bool.not_eq_false,
        Bool.not_eq_true] at hn
      refine ⟨x, hx, hn.1, hn.2, hl, ?_⟩
      split at h
      · cases h
      · next hd =>
        refine ⟨?_, Except.ok.inj h⟩
        rintro hc'
        exact hd (hc.symm.trans hc')
  · rintro ⟨x, hx, hn, hs, hl, hd, rfl⟩
    have hc : t.child? x.directory x.route.last = .ok (t.content? x.place) := by
      rw [child?, if_neg hl]
      rfl
    rw [hx]
    simp only [bind, Except.bind, hn, hs, Bool.not_true, Bool.or_false, Bool.false_eq_true,
      if_false, hc]
    rfl

/-- What can be written in a tree can be in every other one where no directory is missing, and none
is at the place. -/
theorem writable_of_keeps (h : t.KeepsDirectories u) {place : Place}
    (hw : t.writable path = .ok place) (hd : u.content? place ≠ some .directory) :
    u.writable path = .ok place := by
  obtain ⟨x, hx, hn, hs, hl, -, rfl⟩ := writable_iff.1 hw
  exact writable_iff.2 ⟨x, locate_congr h hx, hn, hs, hl, hd, rfl⟩

/-- A write puts a file at the place that can be written, or does nothing at all. -/
theorem write_cases {fault : Option Fault} {bytes : ByteArray} {answer : Except IoError Unit}
    (h : t.write fault path bytes = (answer, u)) :
    ((∃ e, answer = .error e) ∧ u = t) ∨ ∃ place bytes', t.writable path = .ok place ∧
      (answer = .ok () → bytes' = bytes) ∧ u = t.set place (.file bytes') := by
  unfold write at h
  split at h
  · obtain ⟨rfl, rfl⟩ := Prod.mk.inj h
    exact .inl ⟨⟨_, rfl⟩, rfl⟩
  · next place hw =>
    obtain ⟨rfl, rfl⟩ := Prod.mk.inj h
    exact .inr ⟨place, bytes, hw, fun _ => rfl, rfl⟩
  · next place f hw =>
    split at h
    · obtain ⟨rfl, rfl⟩ := Prod.mk.inj h
      exact .inl ⟨⟨_, rfl⟩, rfl⟩
    · next n _ =>
      obtain ⟨rfl, rfl⟩ := Prod.mk.inj h
      exact .inr ⟨place, bytes.extract 0 n, hw, nofun, rfl⟩

/-- A move leaves the tree as it was where it fails. -/
theorem rename_error {fault : Option Fault} {source target : FilePath} {e : IoError}
    (h : t.rename fault source target = (.error e, u)) : u = t := by
  unfold rename orAsBefore at h
  split at h
  · exact (Prod.mk.inj h).2.symm
  · cases (Prod.mk.inj h).1

/-- A file that is moved takes the place of the file at its new path. -/
theorem content?_of_rename {fault : Option Fault} {source target : FilePath}
    (h : t.rename fault source target = (.ok (), u)) :
    ∃ x y bytes, t.locate source = .ok x ∧ t.writable target = .ok y.place ∧
      t.locate target = .ok y ∧ t.content? x.place = some (.file bytes) ∧ t.KeepsDirectories u ∧
        ∀ other, u.content? other = if other = y.place then some (.file bytes)
          else if other = x.place then none else t.content? other := by
  obtain ⟨x, y, bytes, hx, hy, hb, hd, hn, hs, hl, rfl⟩ := rename_ok h
  have hne : t.content? x.place ≠ some .directory := by simp [hb]
  have herased := change_erase hx hne
  have hd' : (t.erase x.place).content? y.place ≠ some .directory := by
    rw [content?_erase_place hx hne]
    split
    · simp
    · exact hd
  have hy' := locate_congr herased.keeps hy
  refine ⟨x, y, bytes, hx, writable_iff.2 ⟨y, hy, hn, hs, hl, hd, rfl⟩, hy, hb, ?_, ?_⟩
  · exact fun place hp => (change_set_file hy' hd' bytes).keeps place (herased.keeps place hp)
  · intro other
    rw [content?_set_place hy' hd', content?_erase_place hx hne]

/-- A file is moved to where it can be written. -/
theorem rename_of_writable {source target : FilePath} {from' to' : Place} {bytes : ByteArray}
    (hs : t.writable source = .ok from') (hb : t.content? from' = some (.file bytes))
    (ht : t.writable target = .ok to') :
    t.rename none source target = (.ok (), (t.erase from').set to' (.file bytes)) := by
  obtain ⟨x, hx, hxn, hxs, hxl, -, rfl⟩ := writable_iff.1 hs
  obtain ⟨y, hy, hyn, hys, hyl, hyd, rfl⟩ := writable_iff.1 ht
  have hmoved : t.child? x.directory x.route.last = .ok (some (.file bytes)) := by
    rw [child?, if_neg hxl]
    exact congrArg Except.ok hb
  have hreplaced : t.child? y.directory y.route.last = .ok (t.content? y.place) := by
    rw [child?, if_neg hyl]
    rfl
  unfold rename orAsBefore
  simp [hx, hy, hxn, hyn, hxs, hys, hmoved, hreplaced, hyd, bind, Except.bind, pure, Except.pure]

/-- What is removed is the file at a path, or nothing. -/
theorem remove_cases {fault : Option Fault} {answer : Except IoError Unit}
    (h : t.remove fault path = (answer, u)) :
    u = t ∨ ∃ x, t.locate path = .ok x ∧ t.content? x.place ≠ some .directory ∧
      u = t.erase x.place := by
  unfold remove orAsBefore at h
  split at h
  · exact .inl (Prod.mk.inj h).2.symm
  · next next hc =>
    obtain ⟨rfl, rfl⟩ := Prod.mk.inj h
    right
    split at hc
    · cases hc
    · obtain ⟨bytes, hr, hc⟩ := exists_of_bind_eq_ok hc
      obtain ⟨x, hx, hc⟩ := exists_of_bind_eq_ok hc
      cases hc
      obtain ⟨x', hx', -, -, -, hb⟩ := read?_iff.1 hr
      cases hx.symm.trans hx'
      exact ⟨x, hx, by simp [hb], rfl⟩

end FileTree

namespace Disk

variable {d d' : Disk} {path : FilePath} {bytes : ByteArray}

/-! ## Missing directories -/

/-- What holds of a tree, and of every tree with a directory more on the way, holds when the first
directories have been looked for. -/
theorem createFirst_induction {I : FileTree → Prop} {paths : List FilePath}
    (hstep : ∀ q ∈ paths, ∀ t u fault answer, t.createDir fault q = (answer, u) → I t → I u)
    {answer : Except IoError (List FilePath)} (h : createFirst paths d = (answer, d'))
    (hI : I d.tree) : I d'.tree ∧ ∀ missing, answer = .ok missing → ∀ q ∈ missing, q ∈ paths := by
  induction paths generalizing d d' answer with
  | nil =>
    cases h
    exact ⟨hI, by rintro missing ⟨⟩ q hq; exact hq⟩
  | cons path ancestors ih =>
    rw [createFirst] at h
    rcases hc : d.createDir path with ⟨e | ⟨⟩, d₁⟩
    · have hI₁ := hstep path List.mem_cons_self _ _ _ _ (step_eq hc) hI
      simp only [hc] at h
      split at h
      · rcases hr : createFirst ancestors d₁ with ⟨_ | missing, d₂⟩
        · obtain ⟨hI₂, -⟩ := ih (fun q hq => hstep q (List.mem_cons_of_mem _ hq)) hr hI₁
          simp only [hr] at h
          cases h
          exact ⟨hI₂, nofun⟩
        · obtain ⟨hI₂, hm⟩ := ih (fun q hq => hstep q (List.mem_cons_of_mem _ hq)) hr hI₁
          simp only [hr] at h
          cases h
          refine ⟨hI₂, ?_⟩
          rintro missing' ⟨⟩ q hq
          rcases List.mem_cons.1 hq with rfl | hq
          · exact List.mem_cons_self
          · exact List.mem_cons_of_mem _ (hm missing rfl q hq)
      · split at h
        · cases h
          exact ⟨hI₁, by rintro missing ⟨⟩ q hq; cases hq⟩
        · cases h
          exact ⟨hI₁, nofun⟩
    · have hI₁ := hstep path List.mem_cons_self _ _ _ _ (step_eq hc) hI
      simp only [hc] at h
      cases h
      exact ⟨hI₁, by rintro missing ⟨⟩ q hq; cases hq⟩

theorem createMissing_induction {I : FileTree → Prop} {paths : List FilePath}
    (hstep : ∀ q ∈ paths, ∀ t u fault answer, t.createDir fault q = (answer, u) → I t → I u)
    {answer : Except IoError Unit} (h : createMissing paths d = (answer, d')) (hI : I d.tree) :
    I d'.tree := by
  induction paths generalizing d with
  | nil =>
    cases h
    exact hI
  | cons path rest ih =>
    have hrest := fun q hq => hstep q (List.mem_cons_of_mem path hq)
    rw [createMissing] at h
    rcases hc : d.createDir path with ⟨e | ⟨⟩, d₁⟩
    · have hI₁ := hstep path List.mem_cons_self _ _ _ _ (step_eq hc) hI
      simp only [hc] at h
      split at h
      · exact ih hrest h hI₁
      · cases h
        exact hI₁
    · have hI₁ := hstep path List.mem_cons_self _ _ _ _ (step_eq hc) hI
      simp only [hc] at h
      exact ih hrest h hI₁

theorem createParents_eq (path : FilePath) (d : Disk) :
    d.createParents path =
      match d.createFirst path.above with
      | (.error e, d) => (.error e, d)
      | (.ok missing, d) => d.createMissing missing.reverse :=
  rfl

/-- What every directory more on the way to a path keeps is kept where the directories that lead to
it are created. -/
theorem createParents_induction {I : FileTree → Prop}
    (hstep : ∀ q ∈ path.above, ∀ t u fault answer, t.createDir fault q = (answer, u) → I t → I u)
    {answer : Except IoError Unit} (h : d.createParents path = (answer, d')) (hI : I d.tree) :
    I d'.tree := by
  rw [createParents_eq] at h
  rcases hc : d.createFirst path.above with ⟨e | missing, d₁⟩
  · obtain ⟨hI₁, -⟩ := createFirst_induction hstep hc hI
    simp only [hc] at h
    cases h
    exact hI₁
  · obtain ⟨hI₁, hm⟩ := createFirst_induction hstep hc hI
    simp only [hc] at h
    refine createMissing_induction (fun q hq => hstep q ?_) h hI₁
    exact hm missing rfl q (List.mem_reverse.1 hq)

theorem change_createMissing {paths : List FilePath} {answer : Except IoError Unit}
    (h : createMissing paths d = (answer, d')) :
    FileTree.Change (fun _ => False) d.tree d'.tree := by
  refine createMissing_induction ?_ h (.refl _ d.tree)
  intro q _ t u fault answer hc hI
  exact hI.trans (FileTree.change_createDir hc)

theorem change_createParents {answer : Except IoError Unit}
    (h : d.createParents path = (answer, d')) :
    FileTree.Change (fun _ => False) d.tree d'.tree := by
  refine createParents_induction ?_ h (.refl _ d.tree)
  intro q _ t u fault answer hc hI
  exact hI.trans (FileTree.change_createDir hc)

/-- Directories that were created in their order are there. -/
theorem isDirectory_of_createMissing {paths : List FilePath}
    (h : createMissing paths d = (.ok (), d')) : ∀ q ∈ paths, d'.tree.isDirectory q = true := by
  induction paths generalizing d with
  | nil => simp
  | cons path rest ih =>
    rw [createMissing] at h
    rcases hc : d.createDir path with ⟨e | ⟨⟩, d₁⟩ <;> simp only [hc] at h
    · split at h
      · next he =>
        intro q hq
        rcases List.mem_cons.1 hq with rfl | hq
        · exact FileTree.isDirectory_of_keeps (change_createMissing h).keeps
            (Bool.and_eq_true_iff.1 he).2
        · exact ih h q hq
      · cases h
    · intro q hq
      rcases List.mem_cons.1 hq with rfl | hq
      · exact FileTree.isDirectory_of_keeps (change_createMissing h).keeps
          (FileTree.isDirectory_of_createDir (step_eq hc))
      · exact ih h q hq

/-- The directory that was to be created is there, or it is among those that are still missing. -/
theorem isDirectory_of_createFirst {q : FilePath} {paths missing : List FilePath}
    (h : createFirst (q :: paths) d = (.ok missing, d')) :
    d'.tree.isDirectory q = true ∨ q ∈ missing := by
  rw [createFirst] at h
  rcases hc : d.createDir q with ⟨e | ⟨⟩, d₁⟩ <;> simp only [hc] at h
  · split at h
    · rcases hr : createFirst paths d₁ with ⟨_ | more, d₂⟩ <;> simp only [hr] at h
      · cases h
      · cases h
        exact .inr List.mem_cons_self
    · split at h
      · next he =>
        cases h
        exact .inl (Bool.and_eq_true_iff.1 he).2
      · cases h
  · cases h
    exact .inl (FileTree.isDirectory_of_createDir (step_eq hc))

/-- The directory that leads to a path is there when the directories were created. -/
theorem isDirectory_of_createParents (h : d.createParents path = (.ok (), d')) :
    ∀ q ∈ path.above.head?, d'.tree.isDirectory q = true := by
  intro q hq
  rw [createParents_eq] at h
  cases hl : path.above with
  | nil => simp [hl] at hq
  | cons q' paths =>
    rw [hl] at hq h
    obtain rfl : q' = q := by simpa using hq
    rcases hc : d.createFirst (q' :: paths) with ⟨e | missing, d₁⟩ <;> simp only [hc] at h
    · cases h
    · rcases isDirectory_of_createFirst hc with hd | hm
      · exact FileTree.isDirectory_of_keeps (change_createMissing h).keeps hd
      · exact isDirectory_of_createMissing h q' (List.mem_reverse.2 hm)

end Disk

end ProxyControl
