import ProxyControl.Text.Number

/-!
# Bar-separated lines

A record is written on one line as its fields with a bar between each two. Two dialects differ in
what a field may hold: in the pipe-only dialect a bar inside a field is written after a backslash
and every other character is plain, so a field that ends in a backslash is not readable again; in
the full dialect the backslash and the line ends are escaped as well, so every field is.

A line is read in one pass. Scanning turns it into tokens, which are characters of fields and bars
between them; an escape is decoded where it is met. The fields are what the bars of the line, and
one more bar after its end, close.

## Main definitions

* `Dialect`: the two dialects
* `Dialect.escape`, `Dialect.unescape`: one field
* `Dialect.join`, `Dialect.split`: a line of fields
* `Token`, `Dialect.scan`: the pass over a line that both readers share
-/

set_option autoImplicit false

namespace ProxyControl

/-- How the fields of a line are escaped. -/
inductive Dialect where
  /-- Only the bar is escaped. -/
  | pipeOnly
  /-- The bar, the backslash and the line ends are escaped. -/
  | full
  deriving DecidableEq, Repr

/-- What one step over a line finds. -/
inductive Token where
  /-- A character of a field. -/
  | text (c : Char)
  /-- A bar that is not escaped. -/
  | bar
  deriving DecidableEq, Repr

/-- The character that the token is when bars have no meaning. -/
def Token.char : Token → Char
  | .text c => c
  | .bar => '|'

namespace Dialect

/-- A character of a field as the line holds it. -/
def escapeChar (d : Dialect) (c : Char) : List Char :=
  if c = '|' then ['\\', '|']
  else match d with
    | .pipeOnly => [c]
    | .full =>
      if c = '\\' then ['\\', '\\']
      else if c = '\n' then ['\\', 'n']
      else if c = '\r' then ['\\', 'r']
      else [c]

/-- The characters of a field as the line holds them. -/
def escapeChars (d : Dialect) (cs : List Char) : List Char := cs.flatMap d.escapeChar

/-- What a backslash and the character `c`, which is not a bar, stand for in the full dialect: an
unknown escape stands for itself. -/
def escapeValue (c : Char) : List Char :=
  if c = '\\' then ['\\']
  else if c = 'n' then ['\n']
  else if c = 'r' then ['\r']
  else ['\\', c]

/-- The tokens of a line. A backslash at the very end is a character of its field. -/
def scan (d : Dialect) : List Char → List Token
  | [] => []
  | [c] => [if c = '|' then .bar else .text c]
  | c :: e :: rest =>
    if c = '\\' then
      if e = '|' then .text '|' :: scan d rest
      else match d with
        | .pipeOnly => .text '\\' :: scan d (e :: rest)
        | .full => (escapeValue e).map .text ++ scan d rest
    else if c = '|' then .bar :: scan d (e :: rest)
    else .text c :: scan d (e :: rest)

/-- The characters of a field that the line holds as `cs`. -/
def unescapeChars (d : Dialect) (cs : List Char) : List Char := (d.scan cs).map Token.char

/-- The fields that bars close, when the characters of `field` have been read in reverse. What no
bar closes is no field. -/
def closedFields (field : List Char) : List Token → List (List Char)
  | [] => []
  | .bar :: ts => field.reverse :: closedFields [] ts
  | .text c :: ts => closedFields (c :: field) ts

/-- The fields of a line, the last one closed by a bar after the end of the line. -/
def splitChars (d : Dialect) (line : List Char) : List (List Char) :=
  closedFields [] (d.scan (line ++ ['|']))

/-- The line of some fields. -/
def joinChars (d : Dialect) (fields : List (List Char)) : List Char :=
  List.intercalate ['|'] (fields.map d.escapeChars)

/-- A field as its line holds it. -/
def escape (d : Dialect) (field : String) : String := String.ofList (d.escapeChars field.toList)

/-- The field that a line holds as `raw`. -/
def unescape (d : Dialect) (raw : String) : String := String.ofList (d.unescapeChars raw.toList)

/-- The line of some fields. -/
def join (d : Dialect) (fields : List String) : String :=
  String.ofList (d.joinChars (fields.map String.toList))

/-- The fields of a line. -/
def split (d : Dialect) (line : String) : List String :=
  (d.splitChars line.toList).map String.ofList

example : Dialect.full.split "a\\\\\\|b|c" = ["a\\|b", "c"] := by decide
example : Dialect.full.split "a|b\\" = ["a"] := by decide
example : Dialect.pipeOnly.split "h:1|C:\\new\\\\x|a\\|b" = ["h:1", "C:\\new\\\\x", "a|b"] := by
  decide
example : Dialect.pipeOnly.join ["a|b", "||", ""] = "a\\|b|\\|\\||" := by decide

end Dialect

end ProxyControl
