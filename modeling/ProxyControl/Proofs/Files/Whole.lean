import ProxyControl.Proofs.Files.Mishaps
import ProxyControl.Proofs.Files.Surroundings

/-!
# Files replaced as a whole

A replacement creates the directories that lead to a file, puts the new bytes under another name
beside it and moves them. Wherever it fails, all that was there is as it was, except under that
other name; and where it succeeds, the file alone has changed and nothing is left beside it. New is
only what the way to the file needs.

There is one exception to the first part, and it takes a path that goes up. Such a path may lead
through its own last name: to replace `a/../a` the directory `a` is created, and then it is in the
place of the file.

## Main definitions

* `FileTree.LeadsTo`: the directory that a path leads to
* `FileTree.Paved`: a tree that was changed at some places, and else only on the way to a file

## Main results

* `Disk.paved_createParents`: what the directories that lead to a file change
* `FileTree.Paved.target`: they are not in its place, unless its path goes up
* `Disk.replaced_or_kept`: what a replacement leaves, whether it succeeds or fails
-/

set_option autoImplicit false

namespace ProxyControl

/-! ## Parents -/

namespace FilePath

/-- The directory where a path starts. -/
def start (p : FilePath) : Place := if isAbsolute p.shown then [] else p.workDir

/-- A path that goes up. -/
def GoesUp (p : FilePath) : Prop := ".." ∈ namesOf p.shown.toList

variable {p q : FilePath} {name : String}

/-- A path with a last name has the names of its parent, and then this name among lone points. -/
theorem names_parent (h : fileName? p.shown = some name) :
    IsPlainName name ∧ trimEnd p.shown.toList.reverse ≠ [] ∧ ∃ before after,
      (∀ n ∈ before, n = ".") ∧ (∀ n ∈ after, n = ".") ∧
        namesOf p.shown.toList = namesOf p.parent.shown.toList ++ before ++ name :: after := by
  unfold fileName? at h
  dsimp only at h
  split at h
  · cases h
  · next hplain =>
    simp only [Bool.or_eq_true, decide_eq_true_eq, not_or] at hplain
    obtain ⟨⟨hne, hpoint⟩, hup⟩ := hplain
    have ht : trimEnd p.shown.toList.reverse ≠ [] := fun ht => hne (by rw [ht]; rfl)
    obtain ⟨-, before, after, -, hbefore, hafter, hnames⟩ := exists_namesOf_dropName ht
    rw [List.reverse_reverse, ← (shown_parent ht).2.2, Option.some.inj h] at hnames
    refine ⟨?_, ht, before, after, hbefore, hafter, hnames⟩
    rw [Option.some.inj h] at hne hpoint hup
    refine ⟨fun hslash => ?_, hne, hpoint, hup⟩
    rw [← Option.some.inj h, String.toList_ofList, List.mem_reverse] at hslash
    exact absurd (List.all_eq_true.1 List.all_takeWhile '/' hslash) (by decide)

/-- A path above a path goes a part of the way to its parent. -/
theorem names_of_mem_above (h : q ∈ p.above) :
    q.start = p.parent.start ∧ namesOf q.shown.toList ≠ [] ∧
      ∃ more, namesOf p.parent.shown.toList = namesOf q.shown.toList ++ more := by
  have ht : trimEnd p.shown.toList.reverse ≠ [] := by
    intro ht
    have hd : dropName p.shown.toList.reverse = [] := by rw [dropName, ht]; rfl
    rw [above_eq, hd, ancestorsFrom, dif_pos (by decide)] at h
    cases h
  obtain ⟨-, habsolute, hnames⟩ := shown_parent ht
  obtain ⟨a, b, -, rfl, hp, hne, -⟩ := exists_of_mem_above h
  have ha : a ≠ "" := by
    rintro rfl
    exact hne rfl
  refine ⟨?_, hne, ?_⟩
  · rw [start, start, habsolute, hp, isAbsolute_append ha]
    rfl
  · rw [above_eq] at h
    obtain ⟨cs, hcs, hq⟩ := List.mem_map.1 h
    obtain ⟨-, -, hmore⟩ := exists_namesOf_of_mem_ancestorsFrom hcs
    rw [hnames, ← hq]
    simpa [withText] using hmore

end FilePath

namespace FileTree

variable {t u v : FileTree} {path p q : FilePath} {here home : Place} {name : String}

/-- A path leads to a directory. -/
def LeadsTo (t : FileTree) (p : FilePath) (here : Place) : Prop :=
  t.content? p.start = some .directory ∧ t.walk p.start (namesOf p.shown.toList) = .ok here

theorem LeadsTo.keeps (h : t.LeadsTo p here) (hk : t.KeepsDirectories u) : u.LeadsTo p here :=
  ⟨hk _ h.1, walk_congr hk h.2⟩

/-- A walk that does not go up ends below its start. -/
theorem prefix_of_walk {there : Place} {names : List String} (h : t.walk here names = .ok there)
    (hn : ".." ∉ names) : here <+: there := by
  induction names generalizing here with
  | nil =>
    cases h
    exact List.prefix_rfl
  | cons name names ih =>
    obtain ⟨hup, hn⟩ := not_or.1 (mt List.mem_cons.2 hn)
    rw [walk] at h
    split at h
    · exact ih h hn
    · rw [if_neg (Ne.symm hup)] at h
      split at h
      · cases h
      · cases h
      · cases h
      · exact (List.prefix_append here [name]).trans (ih h hn)

/-- A path that ends in the name of a directory leads to it. -/
theorem leadsTo_of_directory {x : Target} (hx : t.locate q = .ok x) (hn : x.route.isNamed = true)
    (hl : ¬maxNameSize < x.route.last.utf8ByteSize) (hd : t.content? x.place = some .directory) :
    t.LeadsTo q x.place := by
  obtain ⟨hr, hs, hw⟩ := locate_ok hx
  obtain ⟨-, -, -, hstart, hway, hlast, -⟩ := FilePath.route_eq_ok hr
  obtain ⟨⟨hempty, hpoint⟩, hup⟩ :
      (¬x.route.last = "" ∧ ¬x.route.last = ".") ∧ ¬x.route.last = ".." := by
    simpa [Route.isNamed] using hn
  have hne : namesOf q.shown.toList ≠ [] := fun hnil => hempty (by rw [hlast, hnil]; rfl)
  have hnames : namesOf q.shown.toList = x.route.way ++ [x.route.last] := by
    rw [hway, hlast, List.getLastD_eq_getLast?, List.getLast?_eq_some_getLast hne]
    exact (List.dropLast_concat_getLast hne).symm
  have hchild : t.child? x.directory x.route.last = .ok (some .directory) := by
    rw [child?, if_neg hl]
    exact congrArg Except.ok hd
  have hlead : q.start = x.route.start := hstart.symm
  refine ⟨by rw [hlead]; exact hs, ?_⟩
  rw [hlead, hnames]
  refine walk_append.2 ⟨x.directory, hw, ?_⟩
  rw [walk, if_neg hpoint, if_neg hup, hchild]
  rfl

/-! ## Ways -/

/-- A tree that was changed at some places, and where otherwise nothing was done but to pave the way
to a file: what is new there is a directory that a path above the file's leads to. -/
structure Paved (path : FilePath) (touched : Place → Prop) (t u : FileTree) : Prop
    extends Change touched t u where
  way : ∀ place, ¬touched place → t.content? place = none → u.content? place = some .directory →
    ∃ q ∈ path.above, u.LeadsTo q place

namespace Paved

variable {touched : Place → Prop}

theorem refl (path : FilePath) (touched : Place → Prop) (t : FileTree) : Paved path touched t t where
  toChange := .refl touched t
  way place _ hnone hdir := by
    rw [hnone] at hdir
    cases hdir

/-- One more directory on the way. -/
theorem createDir (h : Paved path (fun _ => False) t u) (hq : q ∈ path.above)
    {fault : Option Fault} {answer : Except IoError Unit}
    (hc : u.createDir fault q = (answer, v)) : Paved path (fun _ => False) t v where
  toChange := h.toChange.trans (change_createDir hc)
  way place hn hnone hdir := by
    have hkept := (change_createDir hc).keeps
    rcases createDir_cases hc with ⟨e, -, rfl⟩ | ⟨-, x, hx, hxn, hxl, hnew, rfl⟩
    · exact h.way place hn hnone hdir
    · by_cases hp : place = x.place
      · subst hp
        exact ⟨q, hq, leadsTo_of_directory (locate_congr hkept hx) hxn hxl hdir⟩
      · rw [content?_set_directory hx hnew, if_neg hp] at hdir
        obtain ⟨q', hq', hlead⟩ := h.way place hn hnone hdir
        exact ⟨q', hq', hlead.keeps hkept⟩

/-- A tree that was changed at some places after the way was paved. -/
theorem touch (h : Paved path (fun _ => False) t u) (hk : u.KeepsDirectories v)
    (hs : ∀ place, ¬touched place → v.content? place = u.content? place) :
    Paved path touched t v where
  keeps place hp := hk place (h.keeps place hp)
  others place hn := by
    rw [hs place hn]
    exact h.others place not_false
  way place hn hnone hdir := by
    rw [hs place hn] at hdir
    obtain ⟨q, hq, hlead⟩ := h.way place not_false hnone hdir
    exact ⟨q, hq, hlead.keeps hk⟩

/-- **The place of the file** is as before when its way was paved, unless its path goes up. -/
theorem target (h : Paved path touched t u) (hname : fileName? path.shown = some name)
    (hup : ¬path.GoesUp) (hhome : u.LeadsTo path.parent home) (hn : ¬touched (home ++ [name])) :
    u.content? (home ++ [name]) = t.content? (home ++ [name]) := by
  rcases h.others (home ++ [name]) hn with hsame | ⟨hnone, hdir⟩
  · exact hsame
  -- a directory in the place of the file would be above its parent, which is shorter
  · obtain ⟨q, hq, hlead⟩ := h.way _ hn hnone hdir
    obtain ⟨hstart, -, more, hmore⟩ := FilePath.names_of_mem_above hq
    obtain ⟨-, -, before, after, -, -, hnames⟩ := FilePath.names_parent hname
    have hwalk := hhome.2
    rw [hmore, ← hstart, walk_append_of_ok hlead.2] at hwalk
    have hmoreup : ".." ∉ more := by
      intro hmem
      refine hup ?_
      rw [FilePath.GoesUp, hnames, hmore]
      simp [hmem]
    have hlength := (prefix_of_walk hwalk hmoreup).length_le
    rw [List.length_append, List.length_singleton] at hlength
    omega

end Paved

end FileTree

namespace Disk

variable {d d' : Disk} {path : FilePath} {bytes : ByteArray} {name : String} {home : Place}

/-- **The directories that lead to a file** are all that is new when they were created. -/
theorem paved_createParents {answer : Except IoError Unit}
    (h : d.createParents path = (answer, d')) :
    FileTree.Paved path (fun _ => False) d.tree d'.tree := by
  refine createParents_induction ?_ h (.refl path _ d.tree)
  intro q hq t u fault answer hc hI
  exact hI.createDir hq hc

/-- The path beside a file leads to the name beside the file's in the same directory. -/
theorem leadsTo_of_tempPath {t : FileTree} {x : Target} (hname : fileName? path.shown = some name)
    (hx : t.locate (tempPath path) = .ok x) :
    t.LeadsTo path.parent x.directory ∧ x.place = x.directory ++ [name ++ ".tmp"] := by
  obtain ⟨hplain, ht, -⟩ := FilePath.names_parent hname
  obtain ⟨hparent, -⟩ := FilePath.shown_parent ht
  have hshown : (tempPath path).shown = joinPath path.parent.shown (name ++ ".tmp") := by
    rw [tempPath, FilePath.withText, hname, withFileName, hname, hparent]
    rfl
  obtain ⟨hr, hs, hw⟩ := FileTree.locate_ok hx
  obtain ⟨hway, hlast, -⟩ := FilePath.route_joinPath hplain.beside hshown hr
  obtain ⟨-, -, -, hstart, -⟩ := FilePath.route_eq_ok hr
  have hlead : x.route.start = path.parent.start := by
    rw [hstart, FilePath.start, hshown, isAbsolute_joinPath hplain.beside.noSlash]
    rfl
  rw [hlead] at hs hw
  rw [hway] at hw
  exact ⟨⟨hs, hw⟩, by rw [Target.place, hlast]⟩

/-- The path of a file leads to the file's name in the directory that its parent leads to. -/
theorem place_of_writable {t : FileTree} {y : Target} (hname : fileName? path.shown = some name)
    (hhome : t.LeadsTo path.parent home) (hy : t.locate path = .ok y)
    (hw : t.writable path = .ok y.place) : y.place = home ++ [name] := by
  obtain ⟨y', hy', hn, -⟩ := FileTree.writable_iff.1 hw
  cases hy.symm.trans hy'
  obtain ⟨hr, -, hwalk⟩ := FileTree.locate_ok hy
  obtain ⟨-, -, -, hstart, hway, hlast, -⟩ := FilePath.route_eq_ok hr
  obtain ⟨-, ht, before, after, hbefore, hafter, hnames⟩ := FilePath.names_parent hname
  obtain ⟨-, habsolute, -⟩ := FilePath.shown_parent ht
  have hlead : y.route.start = path.parent.start := by
    rw [hstart, FilePath.start, habsolute]
    rfl
  have hnil : after = [] := by
    rcases List.eq_nil_or_concat after with hnil | ⟨init, n, rfl⟩
    · exact hnil
    · rw [hnames, List.concat_eq_append, ← List.cons_append, ← List.append_assoc,
        List.getLastD_concat, hafter n (by simp)] at hlast
      rw [Route.isNamed, hlast] at hn
      exact absurd hn (by decide)
  subst hnil
  rw [hnames, List.dropLast_concat] at hway
  rw [hnames, List.getLastD_concat] at hlast
  rw [hlead, hway, FileTree.walk_append_of_ok hhome.2, FileTree.walk_dots hbefore] at hwalk
  rw [Target.place, hlast, Except.ok.inj hwalk]

/-- **A file is replaced as a whole or kept.** Where a replacement succeeds, the file has exactly the
new bytes, nothing is beside it under the other name, and else only the way to it was paved. Where
it fails, whichever step did, only the way to the file was paved, except that there may be something
under the other name beside it. In the place of the file there is what there was; only if its path
goes up, there may be a directory where there was nothing. -/
theorem replaced_or_kept (hname : fileName? path.shown = some name) (d : Disk)
    (bytes : ByteArray) :
    (∀ d', d.writeAtomic path bytes = (.ok (), d') →
      ∃ home, d'.tree.LeadsTo path.parent home ∧ d'.tree.read? path = .ok bytes ∧
        d'.tree.content? (home ++ [name]) = some (.file bytes) ∧
        d'.tree.content? (home ++ [name ++ ".tmp"]) = none ∧
        FileTree.Paved path
          (fun place => place = home ++ [name] ∨ place = home ++ [name ++ ".tmp"])
          d.tree d'.tree) ∧
    ∀ e d', d.writeAtomic path bytes = (.error e, d') →
      FileTree.Paved path (fun place =>
        ∃ home, d'.tree.LeadsTo path.parent home ∧ place = home ++ [name ++ ".tmp"])
        d.tree d'.tree ∧
      ∀ home, d'.tree.LeadsTo path.parent home →
        d'.tree.content? (home ++ [name]) = d.tree.content? (home ++ [name]) ∨
        path.GoesUp ∧ d.tree.content? (home ++ [name]) = none ∧
          d'.tree.content? (home ++ [name]) = some .directory := by
  have hbeside (home home' : Place) : home ++ [name] ≠ home' ++ [name ++ ".tmp"] := by
    intro h
    obtain ⟨-, hnames⟩ := List.append_inj' h rfl
    exact beside_ne name (List.singleton_inj.1 hnames).symm
  constructor
  · intro d' h
    obtain ⟨d₁, x, y, hp, hkept, hx, -, hy, hw, hall⟩ := content?_of_writeAtomic h
    obtain ⟨hhome, hxplace⟩ := leadsTo_of_tempPath hname hx
    have hyplace := place_of_writable hname hhome hy hw
    rw [hxplace, hyplace] at hall
    refine ⟨x.directory, hhome, read?_of_writeAtomic h, ?_, ?_, ?_⟩
    · rw [hall, if_pos rfl]
    · rw [hall, if_neg (hbeside _ _).symm, if_pos rfl]
    · refine (paved_createParents hp).touch hkept fun place hn => ?_
      rw [hall, if_neg fun h => hn (.inl h), if_neg fun h => hn (.inr h)]
  · intro e d' h
    obtain ⟨answer, d₁, hp, hfile⟩ := beside_of_writeAtomic_error h
    have hpaved : FileTree.Paved path (fun place =>
        ∃ home, d'.tree.LeadsTo path.parent home ∧ place = home ++ [name ++ ".tmp"])
        d.tree d'.tree := by
      rcases hfile with hsame | ⟨x, hx, hkept, hall⟩
      · rw [hsame]
        exact (paved_createParents hp).touch (fun _ h => h) fun _ _ => rfl
      · obtain ⟨hhome, hxplace⟩ := leadsTo_of_tempPath hname hx
        refine (paved_createParents hp).touch hkept fun place hn => hall place ?_
        rintro rfl
        exact hn ⟨x.directory, hhome.keeps hkept, hxplace⟩
    refine ⟨hpaved, fun home hhome => ?_⟩
    have hn : ¬∃ home', d'.tree.LeadsTo path.parent home' ∧
        home ++ [name] = home' ++ [name ++ ".tmp"] := fun ⟨home', _, h⟩ => hbeside home home' h
    rcases hpaved.others _ hn with hsame | ⟨hnone, hdir⟩
    · exact .inl hsame
    · by_cases hup : path.GoesUp
      · exact .inr ⟨hup, hnone, hdir⟩
      · exact .inl (hpaved.target hname hup hhome hn)

/-- A file in a directory, and what was left beside it. -/
def litteredTree (beside : FileTree) : FileTree :=
  .directory [("s", .directory [("x", .file "old".toUTF8), ("x.tmp", beside)])]

def litteredPath : FilePath := ⟨"s/x", []⟩

/-- The file replaced where `beside` was left beside it. -/
def litteredOutcome (beside : FileTree) : Except StoreError Unit × Disk :=
  (Disk.ofTree (litteredTree beside)).writeAtomic litteredPath "new".toUTF8

/-- A file that was left beside the file is gone when the file was replaced. Where a directory was
left there, the replacement fails, and the file has its old bytes. -/
theorem replaced_or_kept_litteredTree :
    fileName? litteredPath.shown = some "x" ∧
    ((litteredOutcome (.file "ne".toUTF8)).1 = .ok () ∧
      (litteredOutcome (.file "ne".toUTF8)).2.tree.read? litteredPath = .ok "new".toUTF8 ∧
      ∃ home, (litteredOutcome (.file "ne".toUTF8)).2.tree.content? (home ++ ["x.tmp"]) = none) ∧
    (litteredOutcome .empty).1.isOk = false ∧
      (litteredOutcome .empty).2.tree.content? ["s", "x"] = some (.file "old".toUTF8) := by
  have hname : fileName? litteredPath.shown = some "x" := by decide
  obtain ⟨hdone, hleft⟩ : (litteredOutcome (.file "ne".toUTF8)).1.toOption = some () ∧
      (litteredOutcome .empty).1.isOk = false := by decide +kernel
  have hok := eq_ok_of_toOption hdone
  refine ⟨hname, ⟨hok, ?_⟩, hleft, ?_⟩
  · obtain ⟨hreplaced, -⟩ :=
      replaced_or_kept hname (.ofTree (litteredTree (.file "ne".toUTF8))) "new".toUTF8
    obtain ⟨home, -, hread, -, hnone, -⟩ := hreplaced _ (Prod.ext hok rfl)
    exact ⟨hread, home, hnone⟩
  · obtain ⟨-, hkept⟩ := replaced_or_kept hname (.ofTree (litteredTree .empty)) "new".toUTF8
    cases he : (litteredOutcome .empty).1 with
    | ok _ =>
      rw [he] at hleft
      cases hleft
    | error e =>
      obtain ⟨-, htarget⟩ := hkept e _ (Prod.ext he rfl)
      have hhome : (litteredOutcome .empty).2.tree.LeadsTo litteredPath.parent ["s"] :=
        ⟨by decide +kernel, eq_ok_of_toOption (by decide +kernel)⟩
      rcases htarget ["s"] hhome with hsame | ⟨hup, -⟩
      · exact hsame
      · exact absurd hup (by unfold FilePath.GoesUp; decide)

/-- A path that goes up from the name that it ends in. -/
def upPath : FilePath := ⟨"a/../a", []⟩

def upOutcome : Except StoreError Unit × Disk :=
  (Disk.ofTree .empty).writeAtomic upPath "new".toUTF8

/-- Nothing is where the path leads, its replacement fails, and then a directory is there. -/
theorem created_upPath :
    fileName? upPath.shown = some "a" ∧ upOutcome.1.isOk = false ∧
      upOutcome.2.tree.LeadsTo upPath.parent [] ∧
      FileTree.empty.content? ["a"] = none ∧ FileTree.empty.isDirectory upPath = false ∧
      upOutcome.2.tree.content? ["a"] = some .directory ∧
      upOutcome.2.tree.isDirectory upPath = true := by
  obtain ⟨hfailed, hcontent, hdirectory, hroot, hwalk⟩ : upOutcome.1.isOk = false ∧
      upOutcome.2.tree.content? ["a"] = some .directory ∧
      upOutcome.2.tree.isDirectory upPath = true ∧
      upOutcome.2.tree.content? [] = some .directory ∧
      (upOutcome.2.tree.walk upPath.parent.start
        (namesOf upPath.parent.shown.toList)).toOption = some [] := by decide +kernel
  exact ⟨by decide, hfailed, ⟨hroot, eq_ok_of_toOption hwalk⟩, rfl, by decide +kernel, hcontent,
    hdirectory⟩

end Disk

end ProxyControl
