import ProxyControl.Files.Path

/-!
# Trees of files

A tree is a file with its bytes, or a directory with named trees in it. A place is the list of the
names that lead to a part of it. A change at one place needs a directory that leads there, and
leaves all other places alone.

## Main definitions

* `FileTree`: a file, or a directory with all that is in it
* `Entry`, `FileTree.content?`: what there is at a place
* `FileTree.set`, `FileTree.erase`: a tree with an entry at a place, or without one
* `FileTree.entries`: all places with their entries

## Main results

* `FileTree.content?_set`, `FileTree.content?_erase`: a change at one place leaves all others alone
-/

set_option autoImplicit false

namespace ProxyControl

/-- A file with its bytes, or a directory with named trees in it. -/
inductive FileTree where
  | file (bytes : ByteArray)
  | directory (inner : List (String × FileTree))

/-- What there is at a place. -/
inductive Entry where
  | directory
  | file (bytes : ByteArray)

instance : DecidableEq Entry
  | .directory, .directory => isTrue rfl
  | .directory, .file _ => isFalse Entry.noConfusion
  | .file _, .directory => isFalse Entry.noConfusion
  | .file a, .file b =>
    match ByteArray.instDecidableEq a b with
    | isTrue h => isTrue (h ▸ rfl)
    | isFalse h => isFalse fun e => h (Entry.file.inj e)

/-- The tree that has only one entry, at its root. -/
def Entry.toTree : Entry → FileTree
  | .directory => .directory []
  | .file bytes => .file bytes

namespace FileTree

/-- A tree that is an empty directory. -/
def empty : FileTree := .directory []

/-- What a tree is at its root. -/
def entry : FileTree → Entry
  | .file bytes => .file bytes
  | .directory _ => .directory

/-- The trees in a directory; a file has none. -/
def inner : FileTree → List (String × FileTree)
  | .file _ => []
  | .directory inner => inner

/-- The part of a tree at a place. -/
def part? (t : FileTree) : Place → Option FileTree
  | [] => some t
  | name :: rest => (t.inner.lookup name).bind fun child => child.part? rest

/-- What there is at a place. -/
def content? (t : FileTree) (place : Place) : Option Entry := (t.part? place).map entry

/-- A directory with another tree under a name, or none. A file stays as it is. -/
def withChild (name : String) (child : Option FileTree) : FileTree → FileTree
  | .file bytes => .file bytes
  | .directory inner =>
    .directory ((child.map fun c => (name, c)).toList ++ inner.filter fun e => e.1 != name)

/-- A tree with another tree at a place, or none. A place that no directory leads to stays as it
is, and so does the root. -/
def alter (new : Option FileTree) : Place → FileTree → FileTree
  | [], t => t
  | [name], t => t.withChild name new
  | name :: rest, t =>
    match t.inner.lookup name with
    | none => t
    | some child => t.withChild name (some (alter new rest child))

/-- A tree with an entry at a place. -/
def set (t : FileTree) (place : Place) (e : Entry) : FileTree := alter (some e.toTree) place t

/-- A tree without an entry at a place. -/
def erase (t : FileTree) (place : Place) : FileTree := alter none place t

/-! ## Changes at one place -/

theorem lookup_filter_ne (inner : List (String × FileTree)) (name other : String) :
    (inner.filter fun e => e.1 != name).lookup other =
      if other = name then none else inner.lookup other := by
  induction inner with
  | nil => simp
  | cons e rest ih =>
    obtain ⟨q, v⟩ := e
    by_cases hq : q = name
    · subst hq
      simp only [List.filter_cons, bne_self_eq_false, Bool.false_eq_true, if_false, ih,
        List.lookup_cons]
      by_cases ho : other = q
      · simp [ho]
      · simp [ho, beq_eq_false_iff_ne.2 ho]
    · simp only [List.filter_cons, bne_iff_ne.2 hq, if_true, List.lookup_cons, ih]
      by_cases ho : other = q
      · subst ho
        simp [hq]
      · simp [beq_eq_false_iff_ne.2 ho]

theorem lookup_inner_withChild (name other : String) (child : Option FileTree)
    (inner : List (String × FileTree)) :
    ((directory inner).withChild name child).inner.lookup other =
      if other = name then child else inner.lookup other := by
  obtain _ | c := child
  · simp [withChild, FileTree.inner, lookup_filter_ne]
  · simp only [withChild, FileTree.inner, Option.map_some, Option.toList_some, List.cons_append,
      List.nil_append, List.lookup_cons, lookup_filter_ne]
    by_cases ho : other = name
    · simp [ho]
    · simp [ho, beq_eq_false_iff_ne.2 ho]

/-- What there is at a place below a name is told by the tree under that name. -/
theorem content?_cons (t : FileTree) (name : String) (rest : Place) :
    t.content? (name :: rest) = (t.inner.lookup name).bind fun child => child.content? rest := by
  cases h : t.inner.lookup name <;> simp [content?, part?, h]

theorem content?_of_inner_eq_nil {t : FileTree} (h : t.inner = []) (name : String) (rest : Place) :
    t.content? (name :: rest) = none := by
  simp [content?_cons, h]

theorem inner_eq_nil_of_content?_ne {t : FileTree} (h : t.content? [] ≠ some .directory) :
    t.inner = [] := by
  cases t with
  | file => rfl
  | directory => simp [content?, part?, entry] at h

/-- A tree with a file, an empty directory or nothing at a place that a directory leads to and that
is none itself: all other places are as before. -/
theorem content?_alter (new : Option FileTree) (hn : ∀ c ∈ new, c.inner = []) (t : FileTree)
    (name : String) (rest other : Place)
    (hd : t.content? (name :: rest).dropLast = some .directory)
    (hl : t.content? (name :: rest) ≠ some .directory) :
    (alter new (name :: rest) t).content? other =
      if other = name :: rest then new.map entry else t.content? other := by
  induction rest generalizing t name other with
  | nil =>
    cases t with
    | file => simp [content?, part?, entry] at hd
    | directory inner =>
      obtain _ | ⟨n, more⟩ := other
      · simp [alter, content?, part?, withChild, entry]
      · simp only [alter, content?_cons, lookup_inner_withChild]
        by_cases hname : n = name
        · subst hname
          simp only [if_true]
          obtain _ | ⟨m, ms⟩ := more
          · cases new <;> simp [content?, part?]
          -- what was there is no directory, so there was nothing below it
          · have before : (directory inner).content? (n :: m :: ms) = none := by
              rw [content?_cons] at hl ⊢
              cases hc : (directory inner).inner.lookup n with
              | none => rfl
              | some c =>
                rw [hc] at hl
                exact content?_of_inner_eq_nil (inner_eq_nil_of_content?_ne hl) m ms
            rw [content?_cons] at before
            rw [before]
            cases new with
            | none => simp
            | some c => simp [content?_of_inner_eq_nil (hn c rfl)]
        · simp [hname, FileTree.inner]
  | cons next rest ih =>
    rw [List.dropLast_cons_of_ne_nil (by simp), content?_cons] at hd
    rw [content?_cons] at hl
    cases hc : t.inner.lookup name with
    | none => simp [hc] at hd
    | some child =>
      rw [hc] at hd hl
      have step := fun more => ih child next more hd hl
      cases t with
      | file => simp [FileTree.inner] at hc
      | directory inner =>
        obtain _ | ⟨n, more⟩ := other
        · simp [alter, hc, content?, part?, withChild, entry]
        · simp only [alter, hc, content?_cons, lookup_inner_withChild]
          by_cases hname : n = name
          · subst hname
            simp [step, hc]
          · simp [hname, FileTree.inner]

/-- A change at one place, to which a directory leads and which is none itself, sets what there is
there and leaves all other places alone. -/
theorem content?_set (t : FileTree) {place : Place} (h : place ≠ []) (e : Entry)
    (hd : t.content? place.dropLast = some .directory) (hl : t.content? place ≠ some .directory)
    (other : Place) :
    (t.set place e).content? other = if other = place then some e else t.content? other := by
  obtain _ | ⟨name, rest⟩ := place
  · contradiction
  · rw [set, content?_alter _ (by rintro c ⟨⟩; cases e <;> rfl) t name rest other hd hl]
    cases e <;> rfl

/-- Erasing what there is at one place, to which a directory leads and which is none itself, leaves
all other places alone. -/
theorem content?_erase (t : FileTree) {place : Place} (h : place ≠ [])
    (hd : t.content? place.dropLast = some .directory) (hl : t.content? place ≠ some .directory)
    (other : Place) :
    (t.erase place).content? other = if other = place then none else t.content? other := by
  obtain _ | ⟨name, rest⟩ := place
  · contradiction
  · rw [erase, content?_alter _ (by simp) t name rest other hd hl]
    rfl

/-! ## All places -/

mutual

/-- All places below a place with their entries, each directory before what is in it. -/
def entriesFrom (here : Place) : FileTree → List (Place × Entry)
  | .file _ => []
  | .directory inner => innerEntries here inner

/-- The entries of named trees in a directory. -/
def innerEntries (here : Place) : List (String × FileTree) → List (Place × Entry)
  | [] => []
  | (name, t) :: rest =>
    (here ++ [name], t.entry) :: entriesFrom (here ++ [name]) t ++ innerEntries here rest

end

/-- All places below the root with their entries, each directory before what is in it. -/
def entries (t : FileTree) : List (Place × Entry) := t.entriesFrom []

end FileTree

end ProxyControl
