import ProxyControl.Files.Disk
import ProxyControl.Proofs.Text.Pieces

/-!
# Names along paths

The names of a path are those of its parent, then lone points, which lead nowhere, and its last
name. So a path above another one goes a part of its way. The path beside it, where its new bytes
are written first, goes the same way except for lone points, and ends in another name.

## Main definitions

* `namesOf`: the names between the slashes of a text
* `FilePath.parent`, `FilePath.above`: the parent of a path, and all paths above it
* `IsPlainName`: a name that stands for itself at the end of a path

## Main results

* `FilePath.route_of_mem_above`: a path above another one goes a part of its way
* `FilePath.route_joinPath`: the last name of a path that was joined
* `FilePath.route_tempPath`: the way to the path beside a path
-/

set_option autoImplicit false

namespace ProxyControl

open Text

/-- The names between the slashes of a text. -/
def namesOf (cs : List Char) : List String :=
  ((splitWhere (· = '/') cs).map String.ofList).filter (· ≠ "")

theorem namesOf_append_slash (a b : List Char) :
    namesOf (a ++ '/' :: b) = namesOf a ++ namesOf b := by
  rw [namesOf, splitWhere_append_cons (by decide), List.map_append, List.filter_append]
  rfl

theorem namesOf_of_notMem {cs : List Char} (h : '/' ∉ cs) (hne : cs ≠ []) :
    namesOf cs = [String.ofList cs] := by
  have hs : ∀ c ∈ cs, decide (c = '/') = false := by
    intro c hc
    exact decide_eq_false fun he => h (he ▸ hc)
  have hname : String.ofList cs ≠ "" := by simpa using hne
  rw [namesOf, splitWhere_of_all_not hs]
  simp [hname]

/-- A path starts where a start of it does. -/
theorem isAbsolute_append {a : String} (h : a ≠ "") (b : String) :
    isAbsolute (a ++ b) = isAbsolute a := by
  have hne : a.toList ≠ [] := by simpa using h
  rw [isAbsolute, isAbsolute, String.toList_append, List.head?_append, List.head?_eq_some_head hne]
  rfl

/-! ## Parents -/

/-- What is trimmed from the end of a path, given from its end, are slashes and lone points. -/
theorem exists_namesOf_trimEnd (cs : List Char) :
    ∃ mid dots, cs = mid ++ trimEnd cs ∧ (∀ n ∈ dots, n = ".") ∧
      namesOf cs.reverse = namesOf (trimEnd cs).reverse ++ dots := by
  fun_induction trimEnd cs with
  | case1 cs ih =>
    obtain ⟨mid, dots, hcs, hdots, hnames⟩ := ih
    refine ⟨'/' :: mid, dots, by rw [List.cons_append, ← hcs], hdots, ?_⟩
    rw [List.reverse_cons, namesOf_append_slash, hnames]
    exact List.append_nil _
  | case2 cs ih =>
    obtain ⟨mid, dots, hcs, hdots, hnames⟩ := ih
    refine ⟨'.' :: '/' :: mid, dots ++ ["."], by rw [List.cons_append, List.cons_append, ← hcs],
      ?_, ?_⟩
    · intro n hn
      rcases List.mem_append.1 hn with hn | hn
      · exact hdots n hn
      · exact List.mem_singleton.1 hn
    · rw [List.reverse_cons, List.reverse_cons, List.append_assoc, List.singleton_append,
        namesOf_append_slash, hnames, List.append_assoc]
      rfl
  | case3 cs => exact ⟨[], [], rfl, by simp, by simp⟩

/-- The names of a path are those of what stands before its last name, lone points, its last name,
and lone points again. -/
theorem exists_namesOf_dropName {cs : List Char} (h : trimEnd cs ≠ []) :
    ∃ mid before after, cs = mid ++ dropName cs ∧ (∀ n ∈ before, n = ".") ∧
      (∀ n ∈ after, n = ".") ∧ namesOf cs.reverse = namesOf (dropName cs).reverse ++ before ++
        String.ofList ((trimEnd cs).takeWhile (· ≠ '/')).reverse :: after := by
  obtain ⟨mid, after, hcs, hafter, hnames⟩ := exists_namesOf_trimEnd cs
  obtain ⟨mid', before, hrest, hbefore, hnames'⟩ :=
    exists_namesOf_trimEnd ((trimEnd cs).dropWhile (· ≠ '/'))
  have hhead := head?_trimEnd cs
  have hcut := List.takeWhile_append_dropWhile (p := (· ≠ '/')) (l := trimEnd cs)
  unfold dropName
  generalize trimEnd cs = t at *
  have hne : t.takeWhile (· ≠ '/') ≠ [] := by
    cases t with
    | nil => exact absurd rfl h
    | cons c t =>
      have hc : c ≠ '/' := fun hc => hhead (by rw [hc]; rfl)
      simp [hc]
  have hno : '/' ∉ (t.takeWhile (· ≠ '/')).reverse := by
    intro hmem
    have hall := List.all_eq_true.1 (List.all_takeWhile (p := (· ≠ '/')) (l := t)) '/'
      (List.mem_reverse.1 hmem)
    exact absurd hall (by decide)
  have hlast := namesOf_of_notMem hno (by simpa using hne)
  refine ⟨mid ++ t.takeWhile (· ≠ '/') ++ mid', before, after, ?_, hbefore, hafter, ?_⟩
  · rw [List.append_assoc, ← hrest, List.append_assoc, hcut]
    exact hcs
  · have hsplit : t.reverse =
        (t.dropWhile (· ≠ '/')).reverse ++ (t.takeWhile (· ≠ '/')).reverse := by
      rw [← List.reverse_append, hcut]
    rw [hnames, ← hnames', hsplit]
    cases hd : t.dropWhile (· ≠ '/') with
    | nil =>
      rw [List.reverse_nil, List.nil_append, hlast]
      rfl
    | cons c rest =>
      have hc : c = '/' := by
        have hnot := List.head?_dropWhile_not (· ≠ '/') t
        rw [hd] at hnot
        simpa using hnot
      rw [hc, List.reverse_cons, List.append_assoc, List.singleton_append, namesOf_append_slash,
        namesOf_append_slash, hlast, List.append_assoc, List.append_assoc]
      rfl

/-- A path above another one, both given from their ends, is a start of it and has names. -/
theorem exists_namesOf_of_mem_ancestorsFrom {cs q : List Char} (h : q ∈ ancestorsFrom cs) :
    (∃ mid, cs = mid ++ q) ∧ namesOf q.reverse ≠ [] ∧
      ∃ more, namesOf cs.reverse = namesOf q.reverse ++ more := by
  induction cs using ancestorsFrom.induct with
  | case1 cs ht => simp [ancestorsFrom, ht] at h
  | case2 cs ht ih =>
    obtain ⟨mid, before, after, hcs, -, -, hnames⟩ := exists_namesOf_dropName ht
    rw [ancestorsFrom, dif_neg ht] at h
    rcases List.mem_cons.1 h with rfl | h
    · exact ⟨⟨[], rfl⟩, by rw [hnames]; simp, [], (List.append_nil _).symm⟩
    · obtain ⟨⟨mid', hq⟩, hne, more, hmore⟩ := ih h
      refine ⟨⟨mid ++ mid', ?_⟩, hne, ?_⟩
      · rw [List.append_assoc, ← hq]
        exact hcs
      · rw [hnames, hmore, List.append_assoc, List.append_assoc]
        exact ⟨_, rfl⟩

namespace FilePath

/-- The path that the last name of a path is seen from. -/
def parent (p : FilePath) : FilePath := p.withText ((parent? p.shown).getD "")

/-- The parent of a path that has names. -/
theorem shown_parent {p : FilePath} (h : trimEnd p.shown.toList.reverse ≠ []) :
    parent? p.shown = some p.parent.shown ∧ isAbsolute p.parent.shown = isAbsolute p.shown ∧
      namesOf p.parent.shown.toList = namesOf (dropName p.shown.toList.reverse).reverse := by
  obtain ⟨mid, -, -, hpath, -⟩ := exists_namesOf_dropName h
  unfold parent withText parent?
  dsimp only
  rw [if_neg h]
  cases hd : dropName p.shown.toList.reverse with
  | nil =>
    by_cases ha : isAbsolute p.shown = true
    · simp only [ha, if_true, Option.getD_some]
      exact ⟨trivial, rfl, rfl⟩
    · simp only [ha, Bool.false_eq_true, if_false, Option.getD_some]
      exact ⟨trivial, rfl, rfl⟩
  | cons c cs =>
    refine ⟨rfl, ?_, by simp⟩
    rw [hd] at hpath
    have hne : String.ofList (c :: cs).reverse ≠ "" := by simp
    have hshown : p.shown = String.ofList (c :: cs).reverse ++ String.ofList mid.reverse := by
      rw [← String.ofList_append, ← List.reverse_append, ← hpath, List.reverse_reverse,
        String.ofList_toList]
    rw [hshown, isAbsolute_append hne]
    rfl

/-- The paths above a path: its parent, the parent of that, and so on. -/
def above (p : FilePath) : List FilePath := (p.withText ((parent? p.shown).getD "")).ancestors

theorem above_eq (p : FilePath) :
    p.above = (ancestorsFrom (dropName p.shown.toList.reverse)).map fun cs =>
      p.withText (String.ofList cs.reverse) := by
  have hnil : ancestorsFrom [] = [] := by rw [ancestorsFrom, dif_pos (by decide)]
  have hroot : ancestorsFrom ['/'] = [] := by rw [ancestorsFrom, dif_pos (by decide)]
  unfold above parent? ancestors withText
  by_cases ht : trimEnd p.shown.toList.reverse = []
  · have hd : dropName p.shown.toList.reverse = [] := by rw [dropName, ht]; rfl
    simp [ht, hd, hnil]
  · cases hd : dropName p.shown.toList.reverse with
    | nil =>
      by_cases ha : isAbsolute p.shown
      · simp [ht, hd, ha, hnil, hroot]
      · simp [ht, hd, ha, hnil]
    | cons c cs => simp [ht, hd]

/-! ## Routes -/

variable {p q : FilePath} {r : Route}

/-- What is known of a path that has a route. -/
theorem route_eq_ok (h : p.route = .ok r) :
    p.shown.toList.contains '\x00' = false ∧ ¬maxPathSize < p.shown.utf8ByteSize ∧
      p.shown ≠ "" ∧ r.start = (if isAbsolute p.shown then [] else p.workDir) ∧
      r.way = (namesOf p.shown.toList).dropLast ∧ r.last = (namesOf p.shown.toList).getLastD "" ∧
      r.isSlashed = decide (p.shown.toList.getLast? = some '/') := by
  unfold route at h
  split at h
  · cases h
  · next hnull =>
    split at h
    · cases h
    · next hsize =>
      split at h
      · cases h
      · next hne =>
        cases h
        exact ⟨Bool.eq_false_iff.2 hnull, hsize, hne, rfl, rfl, rfl, rfl⟩

/-- A start of a path has a route where the path has one, from the same directory. -/
theorem route_of_append (h : p.route = .ok r) {a b : String} (hp : p.shown = a ++ b)
    (ha : a ≠ "") :
    ∃ r', (p.withText a).route = .ok r' ∧ r'.start = r.start ∧
      r'.way = (namesOf a.toList).dropLast ∧ r'.last = (namesOf a.toList).getLastD "" := by
  obtain ⟨hnull, hsize, -, hstart, -⟩ := route_eq_ok h
  have hnull' : ¬a.toList.contains '\x00' = true := by
    rw [hp, String.toList_append, List.contains_append, Bool.or_eq_false_iff] at hnull
    exact Bool.eq_false_iff.1 hnull.1
  have hsize' : ¬maxPathSize < a.utf8ByteSize := by
    rw [hp, String.utf8ByteSize_append] at hsize
    omega
  have habsolute : isAbsolute p.shown = isAbsolute a := by rw [hp, isAbsolute_append ha]
  refine ⟨⟨r.start, (namesOf a.toList).dropLast, (namesOf a.toList).getLastD "",
    a.toList.getLast? = some '/'⟩, ?_, rfl, rfl, rfl⟩
  rw [hstart, habsolute]
  unfold route withText
  rw [if_neg hnull', if_neg hsize', if_neg ha]
  rfl

/-- A path above another one is a start of it, with some of its names but not all. -/
theorem exists_of_mem_above (hq : q ∈ p.above) :
    ∃ a b more, q = p.withText a ∧ p.shown = a ++ b ∧ namesOf a.toList ≠ [] ∧ more ≠ [] ∧
      namesOf p.shown.toList = namesOf a.toList ++ more := by
  rw [above_eq] at hq
  obtain ⟨cs, hcs, rfl⟩ := List.mem_map.1 hq
  obtain ⟨⟨mid, hmid⟩, hnames, more, hmore⟩ := exists_namesOf_of_mem_ancestorsFrom hcs
  have ht : trimEnd p.shown.toList.reverse ≠ [] := by
    intro ht
    have hd : dropName p.shown.toList.reverse = [] := by rw [dropName, ht]; rfl
    rw [hd, ancestorsFrom, dif_pos (by decide)] at hcs
    cases hcs
  obtain ⟨mid', before, after, hpath, -, -, hlast⟩ := exists_namesOf_dropName ht
  rw [List.reverse_reverse, hmore] at hlast
  generalize String.ofList ((trimEnd p.shown.toList.reverse).takeWhile (· ≠ '/')).reverse = name
    at hlast
  refine ⟨String.ofList cs.reverse, String.ofList (mid' ++ mid).reverse,
    more ++ before ++ name :: after, rfl, ?_, ?_, by simp, ?_⟩
  · rw [← String.ofList_append, ← List.reverse_append, List.append_assoc, ← hmid, ← hpath,
      List.reverse_reverse, String.ofList_toList]
  · rwa [String.toList_ofList]
  · rw [hlast, String.toList_ofList]
    simp only [List.append_assoc]

/-- **A path above another one goes a part of its way**, and has a route where the other one has. -/
theorem route_of_mem_above (h : p.route = .ok r) (hq : q ∈ p.above) :
    ∃ r', q.route = .ok r' ∧ r'.start = r.start ∧ ∃ more, r.way = r'.way ++ r'.last :: more := by
  obtain ⟨a, b, more, rfl, hp, hnames, hmore, hall⟩ := exists_of_mem_above hq
  have ha : a ≠ "" := by
    rintro rfl
    exact hnames rfl
  obtain ⟨r', hr', hstart, hway', hlast'⟩ := route_of_append h hp ha
  obtain ⟨-, -, -, -, hway, -, -⟩ := route_eq_ok h
  refine ⟨r', hr', hstart, more.dropLast, ?_⟩
  have hjoin : r'.way ++ [r'.last] = namesOf a.toList := by
    rw [hway', hlast', List.getLastD_eq_getLast?, List.getLast?_eq_some_getLast hnames]
    exact List.dropLast_concat_getLast hnames
  rw [hway, hall, List.dropLast_append_of_ne_nil hmore, ← hjoin, List.append_assoc]
  rfl

end FilePath

/-! ## Last names -/

/-- A name that stands for itself at the end of a path. -/
structure IsPlainName (name : String) : Prop where
  noSlash : '/' ∉ name.toList
  ne_empty : name ≠ ""
  ne_point : name ≠ "."
  ne_up : name ≠ ".."

/-- The name beside a name is another one. -/
theorem beside_ne (name : String) : name ++ ".tmp" ≠ name := by
  intro h
  have hlength := congrArg (·.toList.length) h
  simp at hlength

/-- The name beside a name of a file is one itself. -/
theorem IsPlainName.beside {name : String} (h : IsPlainName name) :
    IsPlainName (name ++ ".tmp") := by
  have hlength : (name ++ ".tmp").toList.length = name.toList.length + 4 := by simp
  have hne {other : String} (ho : other.toList.length < 4) : name ++ ".tmp" ≠ other := by
    rintro rfl
    omega
  refine ⟨?_, hne (by decide), hne (by decide), hne (by decide)⟩
  rw [String.toList_append, List.mem_append, not_or]
  exact ⟨h.noSlash, by decide⟩

section Joined

variable {base name : String}

theorem isAbsolute_eq_false (h : '/' ∉ name.toList) : isAbsolute name = false := by
  refine decide_eq_false fun hhead => h ?_
  exact List.mem_of_mem_head? hhead

/-- A name after a path starts where the path does. -/
theorem isAbsolute_joinPath (h : '/' ∉ name.toList) :
    isAbsolute (joinPath base name) = isAbsolute base := by
  have hname := isAbsolute_eq_false h
  unfold joinPath
  rw [hname, Bool.false_or]
  by_cases hb : base = ""
  · rw [if_pos (decide_eq_true hb), hname, hb]
    rfl
  · rw [if_neg (by simpa using hb)]
    split
    · exact isAbsolute_append hb name
    · rw [String.append_assoc]
      exact isAbsolute_append hb _

/-- A name after a path is one more name. -/
theorem namesOf_joinPath (h : '/' ∉ name.toList) (hne : name ≠ "") :
    namesOf (joinPath base name).toList = namesOf base.toList ++ [name] := by
  have hlast : namesOf name.toList = [name] := by
    rw [namesOf_of_notMem h (by simpa using hne), String.ofList_toList]
  unfold joinPath
  rw [isAbsolute_eq_false h, Bool.false_or]
  by_cases hb : base = ""
  · rw [if_pos (decide_eq_true hb), hlast, hb]
    rfl
  · rw [if_neg (by simpa using hb)]
    split
    · next hslash =>
      obtain ⟨start, hstart⟩ := List.getLast?_eq_some_iff.1 hslash
      rw [String.toList_append, hstart, List.append_assoc, List.singleton_append,
        namesOf_append_slash, namesOf_append_slash, hlast]
      simp [namesOf, splitWhere, splitWhereFrom]
    · rw [String.toList_append, String.toList_append, List.append_assoc]
      exact (namesOf_append_slash _ _).trans (congrArg _ hlast)

theorem getLast?_joinPath (h : '/' ∉ name.toList) (hne : name ≠ "") :
    (joinPath base name).toList.getLast? ≠ some '/' := by
  have hlast (start : List Char) : (start ++ name.toList).getLast? ≠ some '/' := by
    have hname : name.toList ≠ [] := by simpa using hne
    rw [List.getLast?_append, List.getLast?_eq_some_getLast hname]
    intro hs
    exact h (Option.some.inj hs ▸ List.getLast_mem hname)
  unfold joinPath
  split
  · exact hlast []
  · split
    · rw [String.toList_append]
      exact hlast _
    · rw [String.toList_append]
      exact hlast _

/-- The last name of a path and its parent, which leads where the path that the name was joined to
leads. -/
theorem exists_parent?_joinPath (base : String) (h : IsPlainName name) :
    fileName? (joinPath base name) = some name ∧ ∃ parent dots,
      parent? (joinPath base name) = some parent ∧ isAbsolute parent = isAbsolute base ∧
        (∀ n ∈ dots, n = ".") ∧ namesOf base.toList = namesOf parent.toList ++ dots := by
  have hnames : namesOf (joinPath base name).toList = namesOf base.toList ++ [name] :=
    namesOf_joinPath h.noSlash h.ne_empty
  have habsolute : isAbsolute (joinPath base name) = isAbsolute base :=
    isAbsolute_joinPath h.noSlash
  unfold fileName? parent?
  generalize joinPath base name = path at *
  have ht : trimEnd path.toList.reverse ≠ [] := by
    intro ht
    obtain ⟨mid, dots, -, hdots, hpath⟩ := exists_namesOf_trimEnd path.toList.reverse
    rw [List.reverse_reverse, hnames, ht] at hpath
    have hmem : name ∈ namesOf [] ++ dots := hpath ▸ List.mem_append_right _ List.mem_cons_self
    exact h.ne_point (hdots name hmem)
  obtain ⟨-, before, after, -, hbefore, hafter, hall⟩ := exists_namesOf_dropName ht
  rw [List.reverse_reverse, hnames] at hall
  have hnil : after = [] := by
    cases hafter' : after.getLast? with
    | none => exact List.getLast?_eq_none_iff.1 hafter'
    | some n =>
      have hlast := congrArg List.getLast? hall
      simp [List.getLast?_append, List.getLast?_cons, hafter'] at hlast
      exact absurd (hlast.trans (hafter n (List.mem_of_getLast? hafter'))) h.ne_point
  rw [hnil] at hall
  obtain ⟨hbase, hname⟩ := List.append_inj' hall rfl
  rw [← (List.cons.inj hname).1]
  refine ⟨by simp [h.ne_empty, h.ne_point, h.ne_up], ?_⟩
  obtain ⟨hparent, hstart, hshown⟩ := FilePath.shown_parent (p := ⟨path, []⟩) ht
  exact ⟨_, before, hparent, hstart.trans habsolute, hbefore, by rw [hshown]; exact hbase⟩

namespace FilePath

variable {p : FilePath} {r r' : Route}

/-- **The last name of a path that was joined** is the name that was put there. -/
theorem route_joinPath (hn : IsPlainName name) (hp : p.shown = joinPath base name)
    (h : p.route = .ok r) :
    r.way = namesOf base.toList ∧ r.last = name ∧ r.isNamed = true ∧ r.isSlashed = false := by
  obtain ⟨-, -, -, -, hway, hlast, hslashed⟩ := route_eq_ok h
  rw [hp, namesOf_joinPath hn.noSlash hn.ne_empty] at hway hlast
  rw [List.dropLast_concat] at hway
  rw [List.getLastD_concat] at hlast
  refine ⟨hway, hlast, ?_, ?_⟩
  · simp [Route.isNamed, hlast, hn.ne_empty, hn.ne_point, hn.ne_up]
  · rw [hslashed, hp]
    exact decide_eq_false (getLast?_joinPath hn.noSlash hn.ne_empty)

/-- **The path beside a path** goes the same way, except for lone points, to another name. -/
theorem route_tempPath (hn : IsPlainName name) (hp : p.shown = joinPath base name)
    (h : p.route = .ok r) (h' : (Disk.tempPath p).route = .ok r') :
    r'.start = r.start ∧ r'.last = name ++ ".tmp" ∧
      ∃ dots, (∀ n ∈ dots, n = ".") ∧ r.way = r'.way ++ dots := by
  obtain ⟨hfile, parent, dots, hparent, habsolute, hdots, hbase⟩ :=
    exists_parent?_joinPath base hn
  have hshown : (Disk.tempPath p).shown = joinPath parent (name ++ ".tmp") := by
    rw [Disk.tempPath, withText, hp, hfile, withFileName, hfile, hparent]
    rfl
  obtain ⟨hway, -⟩ := route_joinPath hn hp h
  obtain ⟨-, -, -, hstart, -⟩ := route_eq_ok h
  obtain ⟨hway', hlast', -⟩ := route_joinPath hn.beside hshown h'
  obtain ⟨-, -, -, hstart', -⟩ := route_eq_ok h'
  refine ⟨?_, hlast', dots, hdots, ?_⟩
  · rw [hstart, hstart', hshown, isAbsolute_joinPath hn.beside.noSlash, habsolute, hp,
      isAbsolute_joinPath hn.noSlash]
    rfl
  · rw [hway, hbase, hway']

end FilePath

end Joined

end ProxyControl
