import ProxyControl.Document.Value

/-!
# Writing documents

The entries of a table come in the order of their names, plain values before tables. Every table and
every table of a list has a header of its own, unless it is a table that holds nothing but tables.
Text is written in the first of four notations that needs no escapes, and with escapes between
double quotes if none does. A list of two or more values has one value a line.

## Main definitions

* `keyChars`, `textChars`, `floatChars`: the written form of a name, a text and a float
* `Value.chars`: the written form of a value after its key
* `Table.render`: the written form of a document
-/

set_option autoImplicit false

namespace ProxyControl.Document

open Text

/-! ## Text -/

/-- What decides the notation of a text. -/
structure TextTraits where
  /-- There is a control character other than a tab and a line feed. -/
  hasControl : Bool
  /-- There is a line feed. -/
  hasLineFeed : Bool
  /-- There is a backslash. -/
  hasBackslash : Bool
  /-- The most double quotes in a row. -/
  doubleRun : Nat
  /-- The most single quotes in a row. -/
  singleRun : Nat

/-- Whether a character has no sign of its own. -/
def isControl (c : Char) : Bool := decide (c.toNat < 0x20) || c.toNat = 0x7F

/-- The most copies of a character in a row, when `now` of them were just read and `most` is the
most so far. -/
def longestRun (x : Char) (now most : Nat) : List Char → Nat
  | [] => max now most
  | c :: cs => if c = x then longestRun x (now + 1) most cs else longestRun x 0 (max now most) cs

/-- The traits of a text. -/
def traits (cs : List Char) : TextTraits where
  hasControl := cs.any fun c => isControl c && c ≠ '\t' && c ≠ '\n'
  hasLineFeed := cs.contains '\n'
  hasBackslash := cs.contains '\\'
  doubleRun := longestRun '"' 0 0 cs
  singleRun := longestRun '\'' 0 0 cs

/-- A character between double quotes, on one line. -/
def basicChar (c : Char) : List Char :=
  if c = '\x08' then ['\\', 'b']
  else if c = '\t' then ['\\', 't']
  else if c = '\n' then ['\\', 'n']
  else if c = '\x0c' then ['\\', 'f']
  else if c = '\r' then ['\\', 'r']
  else if c = '"' then ['\\', '"']
  else if c = '\\' then ['\\', '\\']
  else if isControl c then ['\\', 'u'] ++ padStart 4 '0' ((hexadecimal c.toNat).map Char.toUpper)
  else [c]

/-- Characters between three double quotes, after a number of plain quotes in a row: a third quote
is escaped. -/
def longBasicChars : Nat → List Char → List Char
  | _, [] => []
  | quotes, c :: cs =>
    if c = '"' then
      if quotes < 2 then '"' :: longBasicChars (quotes + 1) cs
      else '\\' :: '"' :: longBasicChars 0 cs
    else (if c = '\n' then [c] else basicChar c) ++ longBasicChars 0 cs

/-- A line end where the text has one, so that its lines start together. -/
def openingLine (t : TextTraits) : List Char := if t.hasLineFeed then ['\n'] else []

/-- Text on one line between double quotes. -/
def basicText (cs : List Char) : List Char := ['"'] ++ cs.flatMap basicChar ++ ['"']

/-- Text on one line between single quotes. -/
def literalText (cs : List Char) : List Char := ['\''] ++ cs ++ ['\'']

/-- Text between three double quotes. -/
def longBasicText (t : TextTraits) (cs : List Char) : List Char :=
  List.replicate 3 '"' ++ openingLine t ++ longBasicChars 0 cs ++ List.replicate 3 '"'

/-- Text between three single quotes. -/
def longLiteralText (t : TextTraits) (cs : List Char) : List Char :=
  List.replicate 3 '\'' ++ openingLine t ++ cs ++ List.replicate 3 '\''

/-- The written form of a text. -/
def textChars (cs : List Char) : List Char :=
  let t := traits cs
  if !t.hasControl && !t.hasBackslash && t.doubleRun = 0 && !t.hasLineFeed then basicText cs
  else if !t.hasControl && t.singleRun = 0 && !t.hasLineFeed then literalText cs
  else if !t.hasControl && !t.hasBackslash && t.doubleRun ≤ 2 then longBasicText t cs
  else if !t.hasControl && t.singleRun ≤ 2 then longLiteralText t cs
  else if t.hasLineFeed then longBasicText t cs
  else basicText cs

/-- The written form of a name. -/
def keyChars (name : String) : List Char :=
  let cs := name.toList
  let t := traits cs
  if cs ≠ [] && cs.all isBare then cs
  else if t.hasControl || t.hasLineFeed then basicText cs
  else if !t.hasBackslash && t.doubleRun = 0 then basicText cs
  else if t.singleRun = 0 then literalText cs
  else basicText cs

/-! ## Values -/

/-- The written form of a float. A whole number keeps a digit after its point. -/
def floatChars (x : Binary64) : List Char :=
  if x.isNan then "nan".toList
  else if x.isWhole then x.positional ++ ['.', '0']
  else x.positional

/-- Whether a value is a table. -/
def Value.isTable : Value → Bool
  | .table _ => true
  | _ => false

/-- Whether a value has headers of its own: it is a table, or a list of nothing but tables. -/
def Value.hasHeader : Value → Bool
  | .table _ => true
  | .array items => !items.isEmpty && items.all Value.isTable
  | _ => false

mutual

/-- The written form of a value after its key. -/
def Value.chars : Value → List Char
  | .string s => textChars s.toList
  | .integer n => (toString n).toList
  | .float x => floatChars x
  | .boolean b => (toString b).toList
  | .datetime d => d.chars
  | .array items =>
    if items.length < 2 then ['['] ++ itemsChars items ++ [']']
    else ['['] ++ itemLines items ++ ['\n', ']']
  | .table entries =>
    match entryChars entries with
    | [] => ['\x7b', '\x7d']
    | written =>
      ['\x7b', ' '] ++ (written.intersperse [',', ' ']).flatten ++ [' ', '\x7d']
termination_by structural v => v

/-- The written forms of values one after another. -/
def itemsChars : List Value → List Char
  | [] => []
  | v :: rest => v.chars ++ itemsChars rest
termination_by structural items => items

/-- The written forms of values, each on a line of its own. -/
def itemLines : List Value → List Char
  | [] => []
  | v :: rest => '\n' :: List.replicate 4 ' ' ++ v.chars ++ [','] ++ itemLines rest
termination_by structural items => items

/-- The written forms of entries. -/
def entryChars : List (String × Value) → List (List Char)
  | [] => []
  | (k, v) :: rest => (keyChars k ++ " = ".toList ++ v.chars) :: entryChars rest
termination_by structural entries => entries

end

/-! ## Documents -/

/-- The lines that stand under the header of a table: those of its entries whose values have no
header of their own. -/
def bodyLines (t : Table) : List Char :=
  (t.filter fun e => !e.2.hasHeader).flatMap fun e =>
    keyChars e.1 ++ " = ".toList ++ e.2.chars ++ ['\n']

/-- The names that lead to a table, with points between them. -/
def pathChars (path : List String) : List Char :=
  ((path.map keyChars).intersperse ['.']).flatten

mutual

/-- The parts of a document that a value takes, each with its header. -/
def Value.parts (path : List String) : Value → List (List Char)
  | .table entries =>
    let body := bodyLines entries
    let inner := entryParts path entries
    if body = [] ∧ entries ≠ [] then inner
    else (['['] ++ pathChars path ++ [']', '\n'] ++ body) :: inner
  | .array items => itemParts path items
  | _ => []
termination_by structural v => v

/-- The parts of a document that the tables of a list take. -/
def itemParts (path : List String) : List Value → List (List Char)
  | [] => []
  | .table entries :: rest =>
    (['[', '['] ++ pathChars path ++ [']', ']', '\n'] ++ bodyLines entries) ::
      entryParts path entries ++ itemParts path rest
  | _ :: rest => itemParts path rest
termination_by structural items => items

/-- The parts of a document that those entries take whose values have a header. -/
def entryParts (path : List String) : List (String × Value) → List (List Char)
  | [] => []
  | (k, v) :: rest =>
    if v.hasHeader then v.parts (path ++ [k]) ++ entryParts path rest else entryParts path rest
termination_by structural entries => entries

end

/-- The written form of a document: its plain values, then its tables in their order, with a blank
line between any two parts. -/
def Table.chars (t : Table) : List Char :=
  let first := bodyLines t
  (((if first = [] then [] else [first]) ++ entryParts [] t).intersperse ['\n']).flatten

/-- The written form of a document. -/
def Table.render (t : Table) : String := String.ofList t.chars

end ProxyControl.Document
