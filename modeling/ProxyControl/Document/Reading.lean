import ProxyControl.Document.Outline
import ProxyControl.Document.Scalar

/-!
# Reading documents

A document has one statement a line: a header in brackets, or a key and its value. Comments start
with a number sign and end with the line. Lists may run over lines and hold comments, and a comma
may follow their last value; tables written as values stay on one line. Lists and tables nest, and
keys chain, to a limited depth, so that a short text never needs a deep stack.

## Main definitions

* `readValue`: a value, to a depth
* `Statement`, `readStatement`: a line
* `Table.read?`: the table of a document
-/

set_option autoImplicit false

namespace ProxyControl.Document

open Text

/-- How deep values nest, and how many names a key chains, at most. -/
def maxDepth : Nat := 79

/-! ## Lines -/

/-- The text after a comment, or all of it where none starts. -/
def skipComment : List Char → List Char
  | '#' :: rest => rest.dropWhile isVisible
  | cs => cs

/-- The rest of a line on which nothing else may stand. -/
def readRestOfLine : Reader Unit := fun cs =>
  match skipComment (skipSpaces cs) with
  | [] => some ((), [])
  | cs => readLineEnd cs

/-- The text after blanks, line ends and comments. -/
def skipGaps (cs : List Char) : List Char :=
  match h : skipBlanks cs with
  | '#' :: rest =>
    have : (rest.dropWhile isVisible).length < cs.length := by
      have hle := length_skipBlanks_le cs
      have hsub := (List.dropWhile_sublist isVisible (l := rest)).length_le
      grind
    skipGaps (rest.dropWhile isVisible)
  | rest => rest
termination_by cs.length

/-! ## Keys -/

/-- One name of a key. -/
def readName : Reader String := fun cs =>
  match cs with
  | '"' :: _ => readQuoted cs
  | '\'' :: _ => readQuoted cs
  | _ =>
    let name := cs.takeWhile isBare
    if name = [] then none else some (String.ofList name, cs.dropWhile isBare)

/-- One or more names with points between them, of which there are at most as many as the fuel
says, after those already read. -/
def readNamesFrom : Nat → List String → Reader (List String)
  | 0, _, _ => none
  | fuel + 1, seen, cs => do
    let (name, rest) ← readName (skipSpaces cs)
    match skipSpaces rest with
    | '.' :: rest => readNamesFrom fuel (name :: seen) rest
    | rest => some (name :: seen, rest)

/-- A key. -/
def readKey : Reader Key := fun cs =>
  match readNamesFrom maxDepth [] cs with
  | some (name :: path, rest) => some (⟨path.reverse, name⟩, rest)
  | _ => none

/-! ## Values -/

/-- The values of a list up to its closing bracket, of which there are at most as many as the fuel
says, after those already read. -/
def readItemsFrom (item : Reader Node) : Nat → List Node → Reader Node
  | 0, _, _ => none
  | fuel + 1, seen, cs =>
    match skipGaps cs with
    | ']' :: rest => some (.list seen.reverse, rest)
    | cs => do
      let (value, rest) ← item cs
      match skipGaps rest with
      | ',' :: rest => readItemsFrom item fuel (value :: seen) rest
      | ']' :: rest => some (.list (value :: seen).reverse, rest)
      | _ => none

/-- A key, the equals sign and a value. -/
def readPair (item : Reader Node) : Reader (Key × Node) := fun cs => do
  let (key, rest) ← readKey cs
  let ((), rest) ← readChar '=' rest
  let (value, rest) ← item (skipSpaces rest)
  return ((key, value), rest)

/-- The pairs of a table up to its closing brace, of which there are at most as many as the fuel
says, after those already read. -/
def readEntriesFrom (item : Reader Node) : Nat → Outline → Reader Node
  | 0, _, _ => none
  | fuel + 1, seen, cs => do
    let ((key, value), rest) ← readPair item cs
    let seen ← seen.addPair? key value
    match skipSpaces rest with
    | ',' :: rest => readEntriesFrom item fuel seen rest
    | '\x7d' :: rest => some (.braces seen, rest)
    | _ => none

/-- The pairs of a table up to its closing brace. -/
def readEntries (item : Reader Node) (fuel : Nat) : Reader Node := fun cs =>
  match skipSpaces cs with
  | '\x7d' :: rest => some (.braces [], rest)
  | rest => readEntriesFrom item fuel [] rest

/-- A value that nests at most so deep, in lists and tables that are no longer than the fuel. -/
def readValue (fuel : Nat) : Nat → Reader Node
  | depth, cs =>
    match cs with
    | '"' :: _ => (readText cs).map fun r => (.scalar (.string r.1), r.2)
    | '\'' :: _ => (readText cs).map fun r => (.scalar (.string r.1), r.2)
    | '[' :: rest =>
      match depth with
      | 0 => none
      | depth + 1 => readItemsFrom (readValue fuel depth) fuel [] rest
    | '\x7b' :: rest =>
      match depth with
      | 0 => none
      | depth + 1 => readEntries (readValue fuel depth) fuel rest
    | 't' :: 'r' :: 'u' :: 'e' :: rest => some (.scalar (.boolean true), rest)
    | 'f' :: 'a' :: 'l' :: 's' :: 'e' :: rest => some (.scalar (.boolean false), rest)
    | _ => (readNumber cs).map fun r => (.scalar r.1, r.2)

/-! ## Statements -/

/-- What one line of a document says. -/
inductive Statement where
  /-- The pairs below are in this table. -/
  | header (h : Header)
  /-- A value under a key. -/
  | pair (key : Key) (value : Node)

/-- A header after its first bracket. -/
def readHeader : Reader Statement := fun cs =>
  match cs with
  -- two brackets: one more table of a list
  | '[' :: rest => do
    let (key, rest) ← readKey rest
    let ((), rest) ← readChar ']' rest
    let ((), rest) ← readChar ']' rest
    return (.header ⟨key, true⟩, rest)
  | _ => do
    let (key, rest) ← readKey cs
    let ((), rest) ← readChar ']' rest
    return (.header ⟨key, false⟩, rest)

/-- A statement, in which no list or table is longer than the fuel. -/
def readStatement (fuel : Nat) : Reader Statement
  | '[' :: rest => readHeader rest
  | cs => (readPair (readValue fuel maxDepth) cs).map fun r => (.pair r.1.1 r.1.2, r.2)

/-- The statements of some text, of which there are at most as many as the fuel says, after those
already read, which are held in reverse. No list or table is longer than `size`. -/
def readStatementsFrom (size : Nat) : Nat → List Statement → List Char → Option (List Statement)
  | 0, _, _ => none
  | fuel + 1, seen, cs =>
    match skipGaps cs with
    | [] => some seen.reverse
    | cs => do
      let (statement, rest) ← readStatement size cs
      let ((), rest) ← readRestOfLine rest
      readStatementsFrom size fuel (statement :: seen) rest

/-- The statements of a document, with or without a byte order mark before them. -/
def readStatements (cs : List Char) : Option (List Statement) :=
  let size := cs.length + 1
  match cs with
  | '\uFEFF' :: rest => readStatementsFrom size size [] rest
  | _ => readStatementsFrom size size [] cs

/-- An outline with pairs under a header, or without one at the start of the document. -/
def Outline.addPart? (o : Outline) (header : Option Header) (pairs : List (Key × Node)) :
    Option Outline :=
  match header with
  | none => o.addPairs? pairs
  | some h => o.addSection? h pairs

/-- An outline with statements, after the pairs already seen under the latest header, which are
held in reverse. -/
def Outline.addStatements? (o : Outline) (header : Option Header) (pairs : List (Key × Node)) :
    List Statement → Option Outline
  | [] => o.addPart? header pairs.reverse
  | .pair key value :: rest => o.addStatements? header ((key, value) :: pairs) rest
  | .header h :: rest => do
    let o ← o.addPart? header pairs.reverse
    o.addStatements? (some h) [] rest

/-- The table of the characters of a document. -/
def Table.ofChars? (cs : List Char) : Option Table := do
  let statements ← readStatements cs
  let outline ← Outline.addStatements? [] none [] statements
  Outline.toTable? outline

/-- The table of a document. -/
def Table.read? (text : String) : Option Table := ofChars? text.toList

end ProxyControl.Document
