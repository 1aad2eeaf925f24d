import ProxyControl.IoError
import ProxyControl.Text.Blank

/-!
# Paths

A path is shown as it was given. Its names stand between slashes. What is before the last name is
its parent; empty names, and points that are not at the start, do not count as names. Only a path
that leads somewhere at all has a route: the directory where it starts, and the names to go along
from there.

## Main definitions

* `FilePath`: a path, and where it starts unless it is absolute
* `joinPath`: the text of a path after another one
* `parent?`, `fileName?`, `withFileName`: the parent and the last name of a path
* `FilePath.ancestors`: a path, its parent, the parent of that, and so on
* `FilePath.route`: the way to go along a path

## Main results

* `length_trimEnd_le`, `length_dropName_lt`: a parent is shorter than its path
-/

set_option autoImplicit false

namespace ProxyControl

open Text

/-- The names that lead from the root to a file or a directory. -/
abbrev Place := List String

/-- A path, and where it starts unless it is absolute. -/
structure FilePath where
  shown : String
  workDir : Place
  deriving DecidableEq, Repr

/-- Whether a path starts at the root. -/
def isAbsolute (path : String) : Bool := path.toList.head? = some '/'

/-- The text of the path `next` after the path `base`: an absolute path stands alone, and one slash
parts the two. -/
def joinPath (base next : String) : String :=
  if isAbsolute next || base = "" then next
  else if base.toList.getLast? = some '/' then base ++ next
  else base ++ "/" ++ next

/-- What stands between the slashes of a path. -/
def pieces (path : String) : List String :=
  (splitWhere (· = '/') path.toList).map String.ofList

/-! ## The last name -/

/-- A path, given from its end, without slashes and lone points at its end. -/
def trimEnd : List Char → List Char
  | '/' :: cs => trimEnd cs
  | '.' :: '/' :: cs => trimEnd cs
  | cs => cs

theorem length_trimEnd_le (cs : List Char) : (trimEnd cs).length ≤ cs.length := by
  fun_induction trimEnd cs <;> grind

theorem head?_trimEnd (cs : List Char) : (trimEnd cs).head? ≠ some '/' := by
  fun_induction trimEnd cs with
  | case1 _ ih => exact ih
  | case2 _ ih => exact ih
  | case3 cs h =>
    obtain _ | ⟨c, cs⟩ := cs
    · simp
    · rintro ⟨⟩
      exact h cs rfl

/-- A path, given from its end, without its last name. -/
def dropName (cs : List Char) : List Char := trimEnd ((trimEnd cs).dropWhile (· ≠ '/'))

theorem length_dropName_lt {cs : List Char} (h : trimEnd cs ≠ []) :
    (dropName cs).length < cs.length := by
  have h₁ := length_trimEnd_le cs
  have h₂ := head?_trimEnd cs
  unfold dropName
  generalize trimEnd cs = t at *
  obtain _ | ⟨c, t⟩ := t
  · contradiction
  · have h₃ := length_trimEnd_le ((c :: t).dropWhile (· ≠ '/'))
    have h₄ := (List.dropWhile_sublist (l := t) (· ≠ '/')).length_le
    simp_all
    omega

/-- The last name of a path, unless it is a point or leads up. -/
def fileName? (path : String) : Option String :=
  let name := String.ofList (((trimEnd path.toList.reverse).takeWhile (· ≠ '/')).reverse)
  if name = "" || name = "." || name = ".." then none else some name

/-- The path that the last name of a path is seen from. The root and the empty path have none. -/
def parent? (path : String) : Option String :=
  let fromEnd := path.toList.reverse
  if trimEnd fromEnd = [] then none
  else
    match dropName fromEnd with
    | [] => some (if isAbsolute path then "/" else "")
    | cs => some (String.ofList cs.reverse)

/-- The path with another last name, or with one more name if it has none. -/
def withFileName (path name : String) : String :=
  match fileName? path, parent? path with
  | some _, some parent => joinPath parent name
  | _, _ => joinPath path name

example : parent? "a/.//b/." = some "a" := by decide
example : parent? "/a" = some "/" := by decide
example : parent? "./" = some "" := by decide
example : fileName? "a/..//" = none := by decide
example : withFileName "a/b/." "c" = "a/c" := by decide
example : withFileName "a/.." "c" = "a/../c" := by decide

/-- A path given from its end, its parent, the parent of that, and so on, as long as they have
names. -/
def ancestorsFrom (cs : List Char) : List (List Char) :=
  if _h : trimEnd cs = [] then [] else cs :: ancestorsFrom (dropName cs)
termination_by cs.length
decreasing_by exact length_dropName_lt ‹_›

example : ancestorsFrom "/a/./b".toList.reverse =
    ["/a/./b".toList.reverse, "/a".toList.reverse] := by decide +kernel

/-! ## Routes -/

/-- The way to go along a path. -/
structure Route where
  /-- The directory where the path starts. -/
  start : Place
  /-- All names before the last one. -/
  way : List String
  /-- The last name, which is empty for the root. -/
  last : String
  /-- Whether a slash follows the last name. -/
  isSlashed : Bool
  deriving DecidableEq, Repr

/-- Whether a route ends with a name that something can have. -/
def Route.isNamed (r : Route) : Bool := r.last ≠ "" && r.last ≠ "." && r.last ≠ ".."

/-- How many bytes a path has at most. -/
def maxPathSize : Nat := 4095

/-- How many bytes a name in a path has at most. -/
def maxNameSize : Nat := 255

namespace FilePath

/-- The path of one more name after a path. -/
def join (p : FilePath) (name : String) : FilePath := { p with shown := joinPath p.shown name }

/-- The path of another text, seen from the same place. -/
def withText (p : FilePath) (text : String) : FilePath := { p with shown := text }

/-- A path, its parent, the parent of that, and so on, as long as they have names. -/
def ancestors (p : FilePath) : List FilePath :=
  (ancestorsFrom p.shown.toList.reverse).map fun cs => p.withText (String.ofList cs.reverse)

/-- The way to go along a path. -/
def route (p : FilePath) : Except IoError Route :=
  if p.shown.toList.contains '\x00' then .error .nullInPath
  else if maxPathSize < p.shown.utf8ByteSize then .error .nameTooLong
  else if p.shown = "" then .error .notFound
  else
    let names := (pieces p.shown).filter (· ≠ "")
    .ok {
      start := if isAbsolute p.shown then [] else p.workDir
      way := names.dropLast
      last := names.getLastD ""
      isSlashed := p.shown.toList.getLast? = some '/' }

end FilePath

end ProxyControl
