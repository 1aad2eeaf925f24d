import ProxyControl.Document.Format
import ProxyControl.Files.Disk

/-!
# Files with sections

A file holds one document, whose tables are its sections. A file that does not exist is an empty
document. A section is replaced by reading the document, changing that one section and writing all
of it, so the other sections stay as they were.

## Main definitions

* `DocumentFile`: where a document is, and its format
* `DocumentFile.read`, `DocumentFile.write`: the whole document
* `DocumentFile.section?`, `DocumentFile.putSection`: one section
-/

set_option autoImplicit false

namespace ProxyControl

open Document

/-- Where a document is, and its format. -/
structure DocumentFile where
  /-- The path of the file. -/
  path : FilePath
  /-- The format of the file. -/
  format : Format

namespace DocumentFile

/-- The bytes of a file as text, or why it has none. A file that does not exist has none of
either. -/
def readText (path : FilePath) (d : Disk) : Except StoreError (Option String) × Disk :=
  match d.read path with
  | (.error e, d) =>
    (if e = .notFound then .ok none else .error (.io path.shown "read" e), d)
  | (.ok bytes, d) =>
    match String.fromUTF8? bytes with
    | some text => (.ok (some text), d)
    | none => (.error (.io path.shown "read" .notUtf8), d)

/-- The document of a file. -/
def read (f : DocumentFile) (d : Disk) : Except StoreError Table × Disk :=
  match readText f.path d with
  | (.error e, d) => (.error e, d)
  | (.ok none, d) => (.ok [], d)
  | (.ok (some text), d) =>
    match f.format.read text with
    | .ok t => (.ok t, d)
    | .error detail => (.error (.parse f.path.shown detail), d)

/-- A document written to a file. -/
def write (f : DocumentFile) (t : Table) (d : Disk) : Except StoreError Unit × Disk :=
  d.writeAtomic f.path (f.format.write t).toUTF8

/-- A section of a file; a name that stands for anything but a table is none. -/
def section? (f : DocumentFile) (name : String) (d : Disk) :
    Except StoreError (Option Table) × Disk :=
  match f.read d with
  | (.error e, d) => (.error e, d)
  | (.ok t, d) =>
    match t.value? name with
    | some (.table s) => (.ok (some s), d)
    | _ => (.ok none, d)

/-- A section of a file replaced or added. -/
def putSection (f : DocumentFile) (name : String) (s : Table) (d : Disk) :
    Except StoreError Unit × Disk :=
  match f.read d with
  | (.error e, d) => (.error e, d)
  | (.ok t, d) => f.write (t.put name (.table s)) d

end DocumentFile

end ProxyControl
