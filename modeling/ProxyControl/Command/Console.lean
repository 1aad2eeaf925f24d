import ProxyControl.Error
import ProxyControl.Text.Number

/-!
# What commands print

A command prints lines on two streams. Fields of a table are padded to a width by their number of
characters; a wider field moves what follows it.

## Main definitions

* `Console`: the lines of both streams
* `Outcome`: what a command that has ended leaves behind
* `padRight`, `padLeft`: fields of a table
* `jsonString`: a text as it is written in an exported list
-/

set_option autoImplicit false

namespace ProxyControl

/-- The lines that were printed. -/
structure Console where
  /-- The lines for the reader of the results. -/
  out : List String
  /-- The lines about what went wrong. -/
  err : List String
  deriving DecidableEq, Repr

namespace Console

/-- Nothing printed. -/
def silent : Console := ⟨[], []⟩

/-- One line with results. -/
def line (text : String) : Console := ⟨[text], []⟩

/-- Lines with results. -/
def lines (texts : List String) : Console := ⟨texts, []⟩

/-- Lines about what went wrong. -/
def errors (texts : List String) : Console := ⟨[], texts⟩

/-- What was printed, and what is printed after it. -/
def andThen (a b : Console) : Console := ⟨a.out ++ b.out, a.err ++ b.err⟩

/-- The text of lines, each of which ends. -/
def textOf (lines : List String) : String := String.join (lines.map (· ++ "\n"))

/-- Warnings, one a line. -/
def warnings (texts : List String) : Console := errors (texts.map ("Warning: " ++ ·))

end Console

/-- What a command that has ended leaves behind. -/
structure Outcome where
  /-- The exit code. -/
  code : Nat
  /-- What was printed. -/
  console : Console
  deriving DecidableEq, Repr

namespace Outcome

/-- A command that was carried out. -/
def success (printed : Console) : Outcome := ⟨0, printed⟩

/-- A command that an error ended, after what was printed before. -/
def failure (printed : Console) (e : Error) : Outcome :=
  ⟨1, printed.andThen (.errors ["Error: " ++ e.message])⟩

end Outcome

/-- Text with blanks after it up to a width. -/
def padRight (width : Nat) (s : String) : String :=
  String.ofList (Text.padEnd width ' ' s.toList)

/-- Text with blanks before it up to a width. -/
def padLeft (width : Nat) (s : String) : String :=
  String.ofList (Text.padStart width ' ' s.toList)

/-- A character of a text in an exported list. -/
def jsonChar (c : Char) : List Char :=
  if c = '"' then ['\\', '"']
  else if c = '\\' then ['\\', '\\']
  else if c = '\x08' then ['\\', 'b']
  else if c = '\x0c' then ['\\', 'f']
  else if c = '\n' then ['\\', 'n']
  else if c = '\r' then ['\\', 'r']
  else if c = '\t' then ['\\', 't']
  else if c.toNat < 0x20 then ['\\', 'u'] ++ Text.padStart 4 '0' (Text.hexadecimal c.toNat)
  else [c]

/-- A text as it is written in an exported list. -/
def jsonString (s : String) : String :=
  String.ofList (['"'] ++ s.toList.flatMap jsonChar ++ ['"'])

end ProxyControl
