import ProxyControl.Files.Tree

/-!
# Access by paths

A path leads along its names through directories only: up at two points, and nowhere at one. What a
call does is decided at the last name. A file can be read, written, moved and removed, and a
directory can be created; the names that lead up or nowhere stand for directories that are there
already. Each change can be cut short by a fault, which leaves part of the work done.

## Main definitions

* `FileTree.walk`: the place that some names lead to
* `FileTree.locate`: the directory and the last name that a path leads to
* `FileTree.read?`, `FileTree.isDirectory`: what is there
* `Fault`: how a change is cut short
* `FileTree.createDir`, `FileTree.write`, `FileTree.rename`, `FileTree.remove`: changes

## Main results

* `FileTree.content?_of_walk`: a walk ends at a directory
* `FileTree.walk_congr`: a walk is the same where no directory is missing
-/

set_option autoImplicit false

namespace ProxyControl

/-- How a change is cut short. -/
structure Fault where
  /-- The error that is reported. -/
  error : IoError
  /-- How many bytes were written before it, if the file was opened at all. -/
  progress : Option Nat
  deriving DecidableEq, Repr

/-- Where a path leads. -/
structure Target where
  /-- The directory that its last name is in. -/
  directory : Place
  /-- The way to go. -/
  route : Route

/-- The place of the last name. -/
def Target.place (x : Target) : Place := x.directory ++ [x.route.last]

namespace FileTree

/-- What has a name in a directory. -/
def child? (t : FileTree) (here : Place) (name : String) : Except IoError (Option Entry) :=
  if maxNameSize < name.utf8ByteSize then .error .nameTooLong else .ok (t.content? (here ++ [name]))

/-- The place that some names lead to from a directory. -/
def walk (t : FileTree) (here : Place) : List String → Except IoError Place
  | [] => .ok here
  | name :: rest =>
    if name = "." then walk t here rest
    else if name = ".." then walk t here.dropLast rest
    else
      match t.child? here name with
      | .error e => .error e
      | .ok none => .error .notFound
      | .ok (some (.file _)) => .error .notADirectory
      | .ok (some .directory) => walk t (here ++ [name]) rest

/-- The directory and the last name that a path leads to, seen from a directory that is there. -/
def locate (t : FileTree) (path : FilePath) : Except IoError Target := do
  let route ← path.route
  if t.content? route.start ≠ some .directory then throw .notFound
  return ⟨← t.walk route.start route.way, route⟩

/-- What a path leads to; the root, and what is up or nowhere, are directories. -/
def find? (t : FileTree) (path : FilePath) : Except IoError (Option Entry) := do
  let x ← t.locate path
  if !x.route.isNamed then return some .directory
  match ← t.child? x.directory x.route.last with
  | some (.file bytes) =>
    if x.route.isSlashed then throw .notADirectory else return some (.file bytes)
  | found => return found

/-- Whether a path leads to a directory. -/
def isDirectory (t : FileTree) (path : FilePath) : Bool :=
  match t.find? path with
  | .ok (some .directory) => true
  | _ => false

/-- The bytes of the file that a path leads to. -/
def read? (t : FileTree) (path : FilePath) : Except IoError ByteArray := do
  match ← t.find? path with
  | none => throw .notFound
  | some .directory => throw .isADirectory
  | some (.file bytes) => return bytes

/-! ## Changes -/

/-- A tree after a change, or as it was where the change is refused. -/
def orAsBefore (t : FileTree) (change : Except IoError FileTree) : Except IoError Unit × FileTree :=
  match change with
  | .error e => (.error e, t)
  | .ok next => (.ok (), next)

/-- The tree with one more directory. -/
def createDir (fault : Option Fault) (path : FilePath) (t : FileTree) :
    Except IoError Unit × FileTree :=
  t.orAsBefore do
    if let some f := fault then throw f.error
    let x ← t.locate path
    if !x.route.isNamed then throw .alreadyExists
    match ← t.child? x.directory x.route.last with
    | some _ => throw .alreadyExists
    | none => return t.set x.place .directory

/-- The place of the file that a path leads to, where it can be written. -/
def writable (t : FileTree) (path : FilePath) : Except IoError Place := do
  let x ← t.locate path
  if !x.route.isNamed || x.route.isSlashed then throw .isADirectory
  match ← t.child? x.directory x.route.last with
  | some .directory => throw .isADirectory
  | _ => return x.place

/-- The tree with a file of the given bytes. -/
def write (fault : Option Fault) (path : FilePath) (bytes : ByteArray) (t : FileTree) :
    Except IoError Unit × FileTree :=
  match t.writable path, fault with
  | .error e, _ => (.error e, t)
  | .ok place, none => (.ok (), t.set place (.file bytes))
  | .ok place, some f =>
    match f.progress with
    | none => (.error f.error, t)
    -- an opened file loses its old bytes before it gets new ones
    | some n => (.error f.error, t.set place (.file (bytes.extract 0 n)))

/-- The tree with a file moved to another path, where it replaces a file. -/
def rename (fault : Option Fault) (source target : FilePath) (t : FileTree) :
    Except IoError Unit × FileTree :=
  t.orAsBefore do
    if let some f := fault then throw f.error
    let x ← t.locate source
    let y ← t.locate target
    if !x.route.isNamed || !y.route.isNamed then throw .resourceBusy
    let moved ← t.child? x.directory x.route.last
    if moved.isNone then throw .notFound
    let replaced ← t.child? y.directory y.route.last
    match moved with
    | some (.file bytes) =>
      if x.route.isSlashed || y.route.isSlashed then throw .notADirectory
      else if replaced = some .directory then throw .isADirectory
      -- the same place twice is no special case: the file is erased and set again
      else return (t.erase x.place).set y.place (.file bytes)
    | _ => throw .isADirectory

/-- The tree without the file that a path leads to. -/
def remove (fault : Option Fault) (path : FilePath) (t : FileTree) :
    Except IoError Unit × FileTree :=
  t.orAsBefore do
    if let some f := fault then throw f.error
    -- only a file can be removed, and only one that is there
    let _ ← t.read? path
    let x ← t.locate path
    return t.erase x.place

/-! ## Walks -/

/-- A walk that starts at a directory ends at one. -/
theorem content?_of_walk {t : FileTree} {here there : Place} {names : List String}
    (h : t.walk here names = .ok there)
    (hd : ∀ n, t.content? (here.take n) = some .directory) (n : Nat) :
    t.content? (there.take n) = some .directory := by
  induction names generalizing here with
  | nil =>
    cases h
    exact hd n
  | cons name rest ih =>
    unfold walk at h
    split at h
    · exact ih h hd
    · split at h
      · exact ih h fun m => by simpa [List.dropLast_eq_take, List.take_take] using hd _
      · split at h <;> try contradiction
        rename_i hc
        refine ih h fun m => ?_
        rw [child?] at hc
        split at hc
        · contradiction
        · obtain hm | hm := Nat.lt_or_ge here.length m
          -- either the new name is taken too, or only a part of the old way
          · rw [List.take_of_length_le (by simp; omega)]
            simpa using hc
          · rw [List.take_append_of_le_length hm]
            exact hd m

/-- A walk ends at the same place in every tree that has at least the same directories. -/
theorem walk_congr {t u : FileTree}
    (h : ∀ place, t.content? place = some .directory → u.content? place = some .directory)
    {here there : Place} {names : List String} (hw : t.walk here names = .ok there) :
    u.walk here names = .ok there := by
  induction names generalizing here with
  | nil => exact hw
  | cons name rest ih =>
    unfold walk at hw ⊢
    split at hw
    · rename_i hn
      simp [hn, ih hw]
    · rename_i hn
      split at hw
      · rename_i hu
        simp [hu, ih hw]
      · rename_i hu
        split at hw <;> try contradiction
        rename_i hc
        have : u.child? here name = .ok (some .directory) := by
          rw [child?] at hc ⊢
          split at hc
          · contradiction
          · rename_i hl
            rw [if_neg hl, h _ (by simpa using hc)]
        simp [hn, hu, this, ih hw]

end FileTree

end ProxyControl
