import ProxyControl.Error
import ProxyControl.Files.Access

/-!
# Disks

A disk is a tree of files whose steps may fail: a schedule says for each step to come whether it is
cut short and how. Missing directories are looked for from the end of a path to its start, and then
created in the other direction. A file is replaced as a whole: its new bytes are written to a file
of another name beside it, which then takes its place. So at every moment the file has either its
old bytes or all of the new ones.

## Main definitions

* `Disk`: a tree of files, and the faults to come
* `Disk.createDirs`: a directory and all that lead to it
* `Disk.read`, `Disk.writeAtomic`: a file read, and a file replaced
-/

set_option autoImplicit false

namespace ProxyControl

/-- A tree of files, and the faults to come. -/
structure Disk where
  /-- What there is. -/
  tree : FileTree
  /-- For each step to come, how it is cut short; later steps are not. -/
  faults : List (Option Fault)

namespace Disk

/-- A disk with a tree whose steps never fail by themselves. -/
def ofTree (t : FileTree) : Disk := ⟨t, []⟩

/-- One step on the disk, which takes the next entry of the schedule. -/
def step {α : Type} (act : Option Fault → FileTree → Except IoError α × FileTree) (d : Disk) :
    Except IoError α × Disk :=
  let (answer, tree) := act (d.faults.head?.getD none) d.tree
  (answer, ⟨tree, d.faults.tail⟩)

/-- The bytes of a file. -/
def read (path : FilePath) (d : Disk) : Except IoError ByteArray × Disk :=
  d.step fun fault t =>
    match fault with
    | some f => (.error f.error, t)
    | none => (t.read? path, t)

/-- One more directory. -/
def createDir (path : FilePath) (d : Disk) : Except IoError Unit × Disk :=
  d.step fun fault => FileTree.createDir fault path

/-- A file of the given bytes. -/
def write (path : FilePath) (bytes : ByteArray) (d : Disk) : Except IoError Unit × Disk :=
  d.step fun fault => FileTree.write fault path bytes

/-- A file moved to another path. -/
def rename (source target : FilePath) (d : Disk) : Except IoError Unit × Disk :=
  d.step fun fault => FileTree.rename fault source target

/-- No file at a path. -/
def remove (path : FilePath) (d : Disk) : Except IoError Unit × Disk :=
  d.step fun fault => FileTree.remove fault path

/-- The first directory created that can be, of a path and its ancestors, and those that are still
missing, the last one first. -/
def createFirst : List FilePath → Disk → Except IoError (List FilePath) × Disk
  | [], d => (.ok [], d)
  | path :: ancestors, d =>
    match d.createDir path with
    | (.ok (), d) => (.ok [], d)
    | (.error e, d) =>
      if e = .notFound then
        -- this one can wait until the directory above it is there
        match createFirst ancestors d with
        | (.ok missing, d) => (.ok (path :: missing), d)
        | failed => failed
      else if e = .alreadyExists && d.tree.isDirectory path then (.ok [], d)
      else (.error e, d)

/-- Directories created in their order, where they are missing. -/
def createMissing : List FilePath → Disk → Except IoError Unit × Disk
  | [], d => (.ok (), d)
  | path :: rest, d =>
    match d.createDir path with
    | (.ok (), d) => createMissing rest d
    | (.error e, d) =>
      if e = .alreadyExists && d.tree.isDirectory path then createMissing rest d
      else (.error e, d)

/-- A directory, and all that lead to it. -/
def createDirs (path : FilePath) (d : Disk) : Except IoError Unit × Disk :=
  match d.createFirst path.ancestors with
  | (.error e, d) => (.error e, d)
  | (.ok missing, d) => d.createMissing missing.reverse

/-- The path beside a path where its new bytes are written first. -/
def tempPath (path : FilePath) : FilePath :=
  path.withText (withFileName path.shown ((fileName? path.shown).getD "" ++ ".tmp"))

/-- The directories that lead to a path. -/
def createParents (path : FilePath) (d : Disk) : Except IoError Unit × Disk :=
  d.createDirs (path.withText ((parent? path.shown).getD ""))

/-- The file at a path replaced by one of the given bytes. -/
def writeAtomic (path : FilePath) (bytes : ByteArray) (d : Disk) :
    Except StoreError Unit × Disk :=
  let failed (operation : String) (e : IoError) : Except StoreError Unit :=
    .error (.io path.shown operation e)
  match d.createParents path with
  | (.error e, d) => (failed "create directory for" e, d)
  | (.ok (), d) =>
    match d.write (tempPath path) bytes with
    | (.error e, d) => (failed "write temp file for" e, d)
    | (.ok (), d) =>
      match d.rename (tempPath path) path with
      -- the old file is still in its place, whether the new one can be removed or not
      | (.error e, d) => (failed "finalise" e, (d.remove (tempPath path)).2)
      | (.ok (), d) => (.ok (), d)

end Disk

end ProxyControl
