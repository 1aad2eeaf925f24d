import ProxyControl.Files.Disk

/-!
# Replaced files

A file that was replaced has the new bytes. The bytes are written beside the file and then moved,
by steps that look paths up in trees that differ: the second one in what the first one left. No step
takes a directory away, so each path leads to the same place in all of these trees.

## Main definitions

* `FileTree.KeepsDirectories`: no directory is taken away

## Main results

* `FileTree.locate_congr`: a path leads to the same place where no directory is taken away
* `FileTree.write_ok`, `FileTree.rename_ok`: what a step that succeeds has done
* `Disk.read?_of_writeAtomic`: a file that was replaced has the new bytes
-/

set_option autoImplicit false

namespace ProxyControl

/-- A computation in two parts succeeds only if both do. -/
theorem exists_of_bind_eq_ok {ε α β : Type} {first : Except ε α} {next : α → Except ε β} {b : β}
    (h : (first >>= next) = .ok b) : ∃ a, first = .ok a ∧ next a = .ok b := by
  cases first with
  | error e => cases h
  | ok a => exact ⟨a, rfl, h⟩

theorem eq_ok_of_toOption {ε α : Type} {x : Except ε α} {a : α} (h : x.toOption = some a) :
    x = .ok a := by
  cases x with
  | error e => cases h
  | ok b => exact congrArg Except.ok (Option.some.inj h)

namespace FileTree

variable {t u : FileTree} {path : FilePath}

/-- Every directory of a tree is one in another tree. -/
def KeepsDirectories (t u : FileTree) : Prop :=
  ∀ place, t.content? place = some .directory → u.content? place = some .directory

theorem part?_append (t : FileTree) (place rest : Place) :
    t.part? (place ++ rest) = (t.part? place).bind fun c => c.part? rest := by
  induction place generalizing t with
  | nil => rfl
  | cons name place ih =>
    rw [List.cons_append, part?, part?]
    cases t.inner.lookup name with
    | none => rfl
    | some child => exact ih child

/-- What leads to anything is a directory. -/
theorem content?_of_append {place : Place} (name : String) (rest : Place)
    (h : t.content? (place ++ name :: rest) ≠ none) : t.content? place = some .directory := by
  rw [content?, part?_append] at h
  rw [content?]
  cases hp : t.part? place with
  | none => simp [hp] at h
  | some c =>
    cases c with
    | directory inner => rfl
    | file bytes => simp [hp, part?, inner] at h

theorem content?_take {place : Place} (h : t.content? place = some .directory) (n : Nat) :
    t.content? (place.take n) = some .directory := by
  cases hd : place.drop n with
  | nil =>
    rw [List.take_of_length_le (List.drop_eq_nil_iff.1 hd)]
    exact h
  | cons name rest =>
    refine content?_of_append name rest ?_
    rw [← hd, List.take_append_drop, h]
    exact Option.some_ne_none _

/-! ## Paths -/

/-- A path leads from a directory that is there along its names. -/
theorem locate_ok {x : Target} (h : t.locate path = .ok x) :
    path.route = .ok x.route ∧ t.content? x.route.start = some .directory ∧
      t.walk x.route.start x.route.way = .ok x.directory := by
  obtain ⟨route, hr, h⟩ := exists_of_bind_eq_ok h
  split at h
  · cases h
  · next hs =>
    obtain ⟨there, hw, h⟩ := exists_of_bind_eq_ok h
    cases h
    exact ⟨hr, Decidable.not_not.1 hs, hw⟩

/-- The last name of a path is in a directory. -/
theorem directory_of_locate {x : Target} (h : t.locate path = .ok x) :
    t.content? x.directory = some .directory := by
  obtain ⟨-, hs, hw⟩ := locate_ok h
  have hd := content?_of_walk hw (content?_take hs) x.directory.length
  rwa [List.take_length] at hd

/-- A path leads to the same place where no directory is taken away. -/
theorem locate_congr {x : Target} (h : t.KeepsDirectories u) (hx : t.locate path = .ok x) :
    u.locate path = .ok x := by
  obtain ⟨hr, hs, hw⟩ := locate_ok hx
  unfold locate
  rw [hr]
  simp only [bind, Except.bind, h _ hs, ne_eq, not_true, if_false, walk_congr h hw]
  rfl

/-! ## Steps -/

/-- A name that is not too long stands for what there is at its place. -/
theorem child?_eq_ok {here : Place} {name : String} {e : Option Entry}
    (h : t.child? here name = .ok e) :
    ¬maxNameSize < name.utf8ByteSize ∧ t.content? (here ++ [name]) = e := by
  unfold child? at h
  split at h
  · cases h
  · next hl => exact ⟨hl, Except.ok.inj h⟩

theorem place_ne_nil (x : Target) : x.place ≠ [] := by simp [Target.place]

theorem dropLast_place (x : Target) : x.place.dropLast = x.directory := by simp [Target.place]

/-- A tree with a file at the last name of a path. -/
theorem content?_set_place {x : Target} (h : t.locate path = .ok x)
    (hn : t.content? x.place ≠ some .directory) (bytes : ByteArray) (other : Place) :
    (t.set x.place (.file bytes)).content? other =
      if other = x.place then some (.file bytes) else t.content? other := by
  refine content?_set t (place_ne_nil x) _ ?_ hn other
  rw [dropLast_place]
  exact directory_of_locate h

theorem keepsDirectories_set {x : Target} (h : t.locate path = .ok x)
    (hn : t.content? x.place ≠ some .directory) (bytes : ByteArray) :
    t.KeepsDirectories (t.set x.place (.file bytes)) := by
  intro place hp
  rw [content?_set_place h hn, if_neg]
  · exact hp
  · rintro rfl
    exact hn hp

/-- What a write has done that succeeds: the tree has the file at the last name of the path. -/
theorem write_ok {fault : Option Fault} {bytes : ByteArray}
    (h : t.write fault path bytes = (.ok (), u)) :
    ∃ x, t.locate path = .ok x ∧ t.content? x.place ≠ some .directory ∧
      u = t.set x.place (.file bytes) := by
  unfold write at h
  split at h
  · cases h
  · next place hw =>
    obtain ⟨x, hx, hw⟩ := exists_of_bind_eq_ok hw
    by_cases hn : (!x.route.isNamed || x.route.isSlashed) = true
    · rw [if_pos hn] at hw
      cases hw
    · rw [if_neg hn] at hw
      obtain ⟨found, hf, hw⟩ := exists_of_bind_eq_ok hw
      obtain ⟨-, hc⟩ := child?_eq_ok hf
      refine ⟨x, hx, ?_, ?_⟩
      · rintro hd
        obtain rfl := hc.symm.trans hd
        cases hw
      · split at hw
        · cases hw
        · cases hw
          exact (Prod.mk.inj h).2.symm
  · next place f hw => split at h <;> cases h

/-- What a move has done that succeeds: the file is at the last name of its new path. -/
theorem rename_ok {fault : Option Fault} {source target : FilePath}
    (h : t.rename fault source target = (.ok (), u)) :
    ∃ x y bytes, t.locate source = .ok x ∧ t.locate target = .ok y ∧
      t.content? x.place = some (.file bytes) ∧ t.content? y.place ≠ some .directory ∧
      y.route.isNamed = true ∧ y.route.isSlashed = false ∧
      ¬maxNameSize < y.route.last.utf8ByteSize ∧
      u = (t.erase x.place).set y.place (.file bytes) := by
  unfold rename orAsBefore at h
  split at h
  · cases h
  · next next hc =>
    obtain rfl := (Prod.mk.inj h).2
    split at hc
    · cases hc
    · obtain ⟨x, hx, hc⟩ := exists_of_bind_eq_ok hc
      obtain ⟨y, hy, hc⟩ := exists_of_bind_eq_ok hc
      by_cases hn : (!x.route.isNamed || !y.route.isNamed) = true
      · rw [if_pos hn] at hc
        cases hc
      · rw [if_neg hn] at hc
        obtain ⟨moved, hm, hc⟩ := exists_of_bind_eq_ok hc
        obtain ⟨-, hmoved⟩ := child?_eq_ok hm
        cases moved with
        | none => cases hc
        | some e =>
          rw [if_neg (by simp)] at hc
          obtain ⟨replaced, hf, hc⟩ := exists_of_bind_eq_ok hc
          obtain ⟨hl, hreplaced⟩ := child?_eq_ok hf
          cases e with
          | directory => cases hc
          | file bytes =>
            simp only at hc
            split at hc
            · cases hc
            · next hsl =>
              split at hc
              · cases hc
              · next hd =>
                cases hc
                simp only [Bool.or_eq_true, Bool.not_eq_true', not_or, Bool.not_eq_false,
                  Bool.not_eq_true] at hn hsl
                refine ⟨x, y, bytes, hx, hy, hmoved, ?_, hn.2, hsl.2, hl, rfl⟩
                rwa [← hreplaced] at hd

/-- **A file that was moved is found at its new path.** -/
theorem read?_of_rename {fault : Option Fault} {source target : FilePath} {x : Target}
    {bytes : ByteArray} (h : t.rename fault source target = (.ok (), u))
    (hx : t.locate source = .ok x) (hb : t.content? x.place = some (.file bytes)) :
    u.read? target = .ok bytes := by
  obtain ⟨x', y, bytes', hx', hy, hb', hd, hn, hs, hl, rfl⟩ := rename_ok h
  cases hx.symm.trans hx'
  cases hb.symm.trans hb'
  have hne : t.content? x.place ≠ some .directory := by simp [hb]
  -- without the file at its old path all directories are still there ...
  have herase (other : Place) : (t.erase x.place).content? other =
      if other = x.place then none else t.content? other := by
    refine content?_erase t (place_ne_nil x) ?_ hne other
    rw [dropLast_place]
    exact directory_of_locate hx
  have hkept : t.KeepsDirectories (t.erase x.place) := by
    intro place hp
    rw [herase, if_neg]
    · exact hp
    · rintro rfl
      exact hne hp
  -- ... so the new path leads to the same place, before the file is put there and after that
  have hy' := locate_congr hkept hy
  have hd' : (t.erase x.place).content? y.place ≠ some .directory := by
    rw [herase]
    split
    · simp
    · exact hd
  have hplace := content?_set_place hy' hd' bytes y.place
  rw [if_pos rfl] at hplace
  have hfound := locate_congr (keepsDirectories_set hy' hd' bytes) hy'
  have hchild : ((t.erase x.place).set y.place (.file bytes)).child? y.directory y.route.last =
      .ok (some (.file bytes)) := by
    rw [child?, if_neg hl]
    exact congrArg Except.ok hplace
  simp [read?, find?, hfound, hn, hchild, hs, bind, Except.bind, pure, Except.pure]

end FileTree

namespace Disk

/-- A step on a disk is one on its tree. -/
theorem step_eq {α : Type} {act : Option Fault → FileTree → Except IoError α × FileTree}
    {d d' : Disk} {answer : Except IoError α} (h : d.step act = (answer, d')) :
    act (d.faults.head?.getD none) d.tree = (answer, d'.tree) := by
  cases h
  rfl

/-- **A file that was replaced has the new bytes**, whatever faults the steps met on the way. -/
theorem read?_of_writeAtomic {d d' : Disk} {path : FilePath} {bytes : ByteArray}
    (h : d.writeAtomic path bytes = (.ok (), d')) : d'.tree.read? path = .ok bytes := by
  unfold writeAtomic at h
  rcases hp : d.createParents path with ⟨_ | _, d₁⟩ <;> simp only [hp] at h
  · cases h
  · rcases hw : d₁.write (tempPath path) bytes with ⟨_ | _, d₂⟩ <;> simp only [hw] at h
    · cases h
    · rcases hr : d₂.rename (tempPath path) path with ⟨_ | _, d₃⟩ <;> simp only [hr] at h
      · cases h
      · cases h
        obtain ⟨x, hx, hn, ht⟩ := FileTree.write_ok (step_eq hw)
        have hplace := FileTree.content?_set_place hx hn bytes x.place
        rw [if_pos rfl, ← ht] at hplace
        have hfound := FileTree.locate_congr (FileTree.keepsDirectories_set hx hn bytes) hx
        rw [← ht] at hfound
        exact FileTree.read?_of_rename (step_eq hr) hfound hplace

end Disk

end ProxyControl
