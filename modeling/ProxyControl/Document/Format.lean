import ProxyControl.Document.Reading
import ProxyControl.Document.Writing

/-!
# Formats of documents

A format reads the text of a document and writes one. Everything that stores documents takes the
format as given, and needs of it only that what it writes reads back.

## Main definitions

* `Format`: a way to read and to write documents
* `Format.pretty`: the format of the files
* `Format.ReadsBack`: a document reads back from its text
* `Value.text?`, `Value.whole?`, `Value.flag?`, `Table.field?`: values of a kind
-/

set_option autoImplicit false

namespace ProxyControl.Document

/-- A way to read and to write documents. -/
structure Format where
  /-- The document that some text is, or why it is none. -/
  read : String → Except String Table
  /-- The text of a document. -/
  write : Table → String

/-- Why some text is no document. -/
def malformedDetail : String := "the text is not a well-formed document"

/-- Why a table has values of the wrong kind. -/
def mistypedDetail : String := "a value has the wrong kind"

/-- Why a number has no written form. -/
def oversizeDetail : String := "a number does not fit in 64 bits with a sign"

/-- The format of the files. -/
def Format.pretty : Format where
  read text :=
    match Table.read? text with
    | some t => .ok t
    | none => .error malformedDetail
  write := Table.render

/-- A document reads back from its text. -/
def Format.ReadsBack (f : Format) (t : Table) : Prop := f.read (f.write t) = .ok t

instance (f : Format) (t : Table) : Decidable (f.ReadsBack t) :=
  decidable_of_iff ((f.read (f.write t)).toOption = some t) <| by
    unfold Format.ReadsBack
    cases f.read (f.write t) <;> simp [Except.toOption]

/-- In the format of the files, a document reads back from its text exactly if it does so from the
characters of the text. -/
theorem Format.readsBack_pretty_iff (t : Table) :
    Format.pretty.ReadsBack t ↔ Table.ofChars? t.chars = some t := by
  simp only [ReadsBack, pretty, Table.read?, Table.render, String.toList_ofList]
  cases Table.ofChars? t.chars <;> simp

/-- The text that a value is, or that a date or a time is written as. -/
def Value.text? : Value → Option String
  | .string s => some s
  | .datetime d => some d.render
  | _ => none

/-- The whole number that a value is. -/
def Value.whole? : Value → Option Int
  | .integer n => some n
  | _ => none

/-- The whole number up to `largest` that a value is. -/
def Value.upTo? (largest : Nat) : Value → Option Nat
  | .integer n => if 0 ≤ n ∧ n ≤ largest then some n.toNat else none
  | _ => none

/-- The truth value that a value is. -/
def Value.flag? : Value → Option Bool
  | .boolean b => some b
  | _ => none

/-- A value of a kind under a name, or the default where the name has none. -/
def Table.field? {α : Type} (read : Value → Option α) (default : α) (t : Table) (name : String) :
    Option α :=
  match t.value? name with
  | none => some default
  | some v => read v

/-- A value of a kind under a name that need not have one. -/
def Table.optional? {α : Type} (read : Value → Option α) (t : Table) (name : String) :
    Option (Option α) :=
  t.field? (fun v => (read v).map some) none name

end ProxyControl.Document
