import ProxyControl.Proofs.Files.Changes

/-!
# Replacements that succeed

To replace a file, missing directories are created, its new bytes are written beside it, and then
they are moved. So a replacement that succeeds leaves all other files as they were, except what was
beside the file, and a file that was replaced can be replaced again.

## Main definitions

* `FileTree.Replaceable`: a file that can be replaced
* `FileTree.Replaced`: a tree in which a file was replaced
* `FileTree.SamePlace`: two paths that lead to one place

## Main results

* `Disk.replaced_of_writeAtomic`: what a replacement that succeeds leaves
* `Disk.replaceable_of_writeAtomic`: a file that was replaced can be replaced again
-/

set_option autoImplicit false

namespace ProxyControl

namespace FileTree

/-- A file that can be replaced, whatever its new bytes are. -/
def Replaceable (t : FileTree) (path : FilePath) : Prop :=
  ∀ bytes, ((Disk.ofTree t).writeAtomic path bytes).1 = .ok ()

/-- What a replacement needs. -/
structure Ready (t : FileTree) (path : FilePath) : Prop where
  /-- The directory that leads to the file is there. -/
  parent : ∀ q ∈ path.above.head?, t.isDirectory q = true
  beside : ∃ place, t.writable (Disk.tempPath path) = .ok place
  target : ∃ place, t.writable path = .ok place

/-- Nothing else is needed. -/
theorem Ready.replaceable {t : FileTree} {path : FilePath} (h : t.Ready path) :
    t.Replaceable path := by
  intro bytes
  obtain ⟨place, hbeside⟩ := h.beside
  obtain ⟨place', htarget⟩ := h.target
  obtain ⟨x, hx, -, -, -, hd, rfl⟩ := writable_iff.1 hbeside
  have hparents : (Disk.ofTree t).createParents path = (.ok (), .ofTree t) := by
    rw [Disk.createParents_eq]
    cases hl : path.above with
    | nil => rfl
    | cons q paths =>
      have hq := h.parent q (by simp [hl])
      have hc : (Disk.ofTree t).createDir q = (.error .alreadyExists, .ofTree t) := by
        have hnone := createDir_of_isDirectory hq none
        simp only [Disk.createDir, Disk.step, Disk.ofTree, List.head?_nil, Option.getD_none, hnone]
        rfl
      have hq' : (Disk.ofTree t).tree.isDirectory q = true := hq
      simp [Disk.createFirst, hc, hq']
      rfl
  have hwrite : (Disk.ofTree t).write (Disk.tempPath path) bytes =
      (.ok (), .ofTree (t.set x.place (.file bytes))) := by
    simp only [Disk.write, Disk.step, Disk.ofTree, List.head?_nil, Option.getD_none,
      FileTree.write, hbeside]
    rfl
  have hset := change_set_file hx hd bytes
  have hfile : (t.set x.place (.file bytes)).content? x.place = some (.file bytes) := by
    rw [content?_set_place hx hd, if_pos rfl]
  have hsource := writable_of_keeps hset.keeps hbeside (by simp [hfile])
  have htarget' : (t.set x.place (.file bytes)).writable path = .ok place' := by
    refine writable_of_keeps hset.keeps htarget ?_
    obtain ⟨y, -, -, -, -, hd', rfl⟩ := writable_iff.1 htarget
    rw [content?_set_place hx hd]
    split
    · simp
    · exact hd'
  have hrename := rename_of_writable hsource hfile htarget'
  simp only [Disk.writeAtomic, hparents, hwrite]
  simp [Disk.rename, Disk.step, Disk.ofTree, hrename]

/-- A tree in which a file was replaced: nothing is beside the file, and all other places are as
before, except for directories that were created. -/
def Replaced (path : FilePath) (t u : FileTree) : Prop :=
  ∃ x y, u.locate (Disk.tempPath path) = .ok x ∧ u.locate path = .ok y ∧
    Change (fun place => place = x.place ∨ place = y.place) t u ∧
    (x.place ≠ y.place → u.content? x.place = none) ∧ u.Ready path

theorem Replaced.trans {path : FilePath} {t u v : FileTree} (h : Replaced path t u)
    (h' : Replaced path u v) : Replaced path t v := by
  obtain ⟨x, y, hx, hy, hchange, -, -⟩ := h
  obtain ⟨x', y', hx', hy', hchange', hbeside, hready⟩ := h'
  cases (locate_congr hchange'.keeps hx).symm.trans hx'
  cases (locate_congr hchange'.keeps hy).symm.trans hy'
  exact ⟨x, y, hx', hy', hchange.trans hchange', hbeside, hready⟩

/-- Two paths lead to one place. -/
def SamePlace (t : FileTree) (p q : FilePath) : Prop :=
  ∃ x y, t.locate p = .ok x ∧ t.locate q = .ok y ∧ x.place = y.place

/-- Paths that lead to one place end in one name. -/
theorem SamePlace.last_eq {t : FileTree} {p q : FilePath} (h : t.SamePlace p q) {r r' : Route}
    (hp : p.route = .ok r) (hq : q.route = .ok r') : r.last = r'.last := by
  obtain ⟨x, y, hx, hy, hplace⟩ := h
  obtain rfl : x.route = r := Except.ok.inj ((locate_ok hx).1.symm.trans hp)
  obtain rfl : y.route = r' := Except.ok.inj ((locate_ok hy).1.symm.trans hq)
  have hlast := congrArg List.getLast? hplace
  rw [Target.place, Target.place, List.getLast?_concat, List.getLast?_concat] at hlast
  exact Option.some.inj hlast

/-- Another file is there as before, unless it was beside the file that was replaced or is that
file. -/
theorem Replaced.read?_other {path other : FilePath} {t u : FileTree} {bytes : ByteArray}
    (h : Replaced path t u) (hb : t.read? other = .ok bytes) :
    u.read? other = .ok bytes ∨ u.read? other = .error .notFound ∨ u.SamePlace path other := by
  obtain ⟨x, y, -, hy, hchange, hbeside, -⟩ := h
  obtain ⟨z, hz, hn, hs, hl, hc⟩ := read?_iff.1 hb
  have hz' := locate_congr hchange.keeps hz
  by_cases hzy : y.place = z.place
  · exact .inr (.inr ⟨y, z, hy, hz', hzy⟩)
  · by_cases hzx : x.place = z.place
    · right
      left
      have hnone := hbeside fun h => hzy (h.symm.trans hzx)
      have hchild : u.child? z.directory z.route.last = .ok none := by
        rw [child?, if_neg hl]
        rw [hzx] at hnone
        exact congrArg Except.ok hnone
      simp [read?, find?, hz', hn, hchild, bind, Except.bind, pure, Except.pure]
      rfl
    · left
      refine read?_iff.2 ⟨z, hz', hn, hs, hl, hchange.content?_file ?_ hc⟩
      rintro (h | h)
      · exact hzx h.symm
      · exact hzy h.symm

end FileTree

namespace Disk

variable {d d' : Disk} {path : FilePath} {bytes : ByteArray}

/-- A replacement that succeeds has created directories, put a file beside the one that it replaces,
and moved it there. -/
theorem content?_of_writeAtomic (h : d.writeAtomic path bytes = (.ok (), d')) :
    ∃ d₁ x y, d.createParents path = (.ok (), d₁) ∧ d₁.tree.KeepsDirectories d'.tree ∧
      d'.tree.locate (tempPath path) = .ok x ∧ d'.tree.writable (tempPath path) = .ok x.place ∧
      d'.tree.locate path = .ok y ∧ d'.tree.writable path = .ok y.place ∧
        ∀ other, d'.tree.content? other = if other = y.place then some (.file bytes)
          else if other = x.place then none else d₁.tree.content? other := by
  unfold writeAtomic at h
  rcases hp : d.createParents path with ⟨_ | _, d₁⟩ <;> simp only [hp] at h
  · cases h
  · rcases hw : d₁.write (tempPath path) bytes with ⟨_ | _, d₂⟩ <;> simp only [hw] at h
    · cases h
    · rcases hr : d₂.rename (tempPath path) path with ⟨_ | _, d₃⟩ <;> simp only [hr] at h
      · cases h
      · cases h
        rcases FileTree.write_cases (step_eq hw) with ⟨⟨e, he⟩, -⟩ | ⟨place, bytes', hwt, hb', ht⟩
        · cases he
        obtain rfl := hb' rfl
        obtain ⟨x, hx, -, -, -, hxd, rfl⟩ := FileTree.writable_iff.1 hwt
        obtain ⟨x', y, b, hx', hwy, hy, hb, hkept, hall⟩ := FileTree.content?_of_rename (step_eq hr)
        have hset := FileTree.change_set_file hx hxd bytes'
        have hcontent := FileTree.content?_set_place hx hxd bytes'
        rw [← ht] at hset hcontent
        cases (FileTree.locate_congr hset.keeps hx).symm.trans hx'
        obtain rfl : b = bytes' := by
          rw [hcontent, if_pos rfl] at hb
          exact (Entry.file.inj (Option.some.inj hb)).symm
        have hkept' : d₁.tree.KeepsDirectories d'.tree :=
          fun place hd => hkept place (hset.keeps place hd)
        refine ⟨d₁, x, y, rfl, hkept', FileTree.locate_congr hkept' hx,
          FileTree.writable_of_keeps hkept' hwt ?_, FileTree.locate_congr hkept hy,
          FileTree.writable_of_keeps hkept hwy ?_, fun other => ?_⟩
        · rw [hall]
          split
          · simp
          · simp
        · rw [hall, if_pos rfl]
          simp
        · rw [hall, hcontent]
          split
          · rfl
          · split
            · rfl
            · rfl

/-- **What a replacement that succeeds leaves.** Only the file has changed, and what was beside it;
and it could be replaced at once again. -/
theorem replaced_of_writeAtomic (h : d.writeAtomic path bytes = (.ok (), d')) :
    FileTree.Replaced path d.tree d'.tree := by
  obtain ⟨d₁, x, y, hp, hkept, hx, hwx, hy, hwy, hall⟩ := content?_of_writeAtomic h
  refine ⟨x, y, hx, hy, ?_, ?_, ?_⟩
  · have hmoved : FileTree.Change (fun place => place = x.place ∨ place = y.place)
        d₁.tree d'.tree := by
      refine ⟨hkept, fun place hn => .inl ?_⟩
      rw [hall, if_neg fun h => hn (.inr h), if_neg fun h => hn (.inl h)]
    exact ((change_createParents hp).mono fun _ => False.elim).trans hmoved
  · intro hne
    rw [hall, if_neg hne, if_pos rfl]
  · have hparents := isDirectory_of_createParents hp
    exact ⟨fun q hq => FileTree.isDirectory_of_keeps hkept (hparents q hq), ⟨x.place, hwx⟩,
      ⟨y.place, hwy⟩⟩

/-- **A file that was replaced can be replaced again.** -/
theorem replaceable_of_writeAtomic (h : d.writeAtomic path bytes = (.ok (), d')) :
    d'.tree.Replaceable path := by
  obtain ⟨-, -, -, -, -, -, hready⟩ := replaced_of_writeAtomic h
  exact hready.replaceable

end Disk

end ProxyControl
