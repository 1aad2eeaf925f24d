import ProxyControl.Document.Value

/-!
# Outlines of documents

While a document is read, each of its tables knows how it came to be: named by the header of its
own, implied by the header of a table inside it, or implied by a dotted key. From this follows
what may still be added. A table can have one header only, and none once a dotted key implied it;
dotted keys add to tables that dotted keys implied, and to no others. A list of tables grows by
headers, and a path through it leads into its last table. No name gets two values. The names of a
table are held in the order in which they came to stand, where an implied table that gets a header
of its own comes to stand anew.

One name is reserved: a table inside the document whose first name it is stands for the date or
time that this name has as text, whatever else is in the table.

## Main definitions

* `Node`, `Outline`: what has been read so far
* `Outline.addPair?`: an outline with a value under a dotted key
* `Outline.addSection?`: an outline with the pairs that stand under a header
* `datetimeMark`: the reserved name
* `Outline.toTable?`: the document
-/

set_option autoImplicit false

namespace ProxyControl.Document

/-- How a table came to be. -/
inductive Origin where
  /-- The table has a header of its own. -/
  | given
  /-- A header of a table inside it implies the table. -/
  | implied
  /-- A dotted key implies the table. -/
  | dotted
  deriving DecidableEq, Repr

/-- What a name stands for while a document is read. -/
inductive Node where
  /-- A value that is neither a list nor a table. -/
  | scalar (v : Value)
  /-- A list written as a value, to which nothing can be added. -/
  | list (items : List Node)
  /-- A table written as a value, to which nothing can be added. -/
  | braces (entries : List (String × Node))
  | table (origin : Origin) (entries : List (String × Node))
  /-- A list of tables that headers add to. -/
  | tables (last : List (String × Node)) (earlier : List (List (String × Node)))

/-- Named nodes, the latest first. -/
abbrev Outline := List (String × Node)

/-- A key: the tables that lead to it, and its own name. -/
structure Key where
  /-- The tables that lead to the name. -/
  path : List String
  name : String
  deriving DecidableEq, Repr

/-- What stands above some pairs of a document. -/
structure Header where
  /-- The table that the pairs are in. -/
  key : Key
  /-- Whether the table is a new one of a list. -/
  isList : Bool
  deriving DecidableEq, Repr

namespace Outline

/-- The node of a name. -/
def node? (o : Outline) (name : String) : Option Node := o.lookup name

/-- The outline with another node for a name that it has. -/
def replace (o : Outline) (name : String) (node : Node) : Outline :=
  o.map fun e => if e.1 = name then (name, node) else e

/-- The outline with the table at the end of a path changed by `f`, which is told how that table
came to be. Tables missing on the way are implied; a path of dotted keys leads through implied
tables only. -/
def alter? (isDotted : Bool) (f : Origin → Outline → Option Outline) :
    List String → Origin → Outline → Option Outline
  | [], origin, o => f origin o
  | name :: path, _, o =>
    match node? o name with
    | none =>
      let origin := if isDotted then Origin.dotted else Origin.implied
      (alter? isDotted f path origin []).map fun inner => (name, .table origin inner) :: o
    | some (.table origin inner) =>
      -- a table with a header of its own is closed to dotted keys
      if isDotted && origin = .given then none
      else
        (alter? isDotted f path origin inner).map fun inner =>
          replace o name (.table origin inner)
    | some (.tables last earlier) =>
      -- below a list of tables, a name belongs to the table added last
      (alter? isDotted f path .given last).map fun last => replace o name (.tables last earlier)
    | some _ => none

/-- The outline with a value under a dotted key. -/
def addPair? (o : Outline) (key : Key) (value : Node) : Option Outline :=
  alter? true
    (fun origin inner =>
      -- a dotted key adds only to tables that dotted keys made
      if (origin = .dotted) = (key.path ≠ []) ∧ (node? inner key.name).isNone then
        some ((key.name, value) :: inner)
      else none)
    key.path .given o

/-- The outline with values under dotted keys, in their order. -/
def addPairs? (o : Outline) (pairs : List (Key × Node)) : Option Outline :=
  pairs.foldlM (fun o pair => addPair? o pair.1 pair.2) o

/-- The outline with the pairs that stand under a header. -/
def addSection? (o : Outline) (header : Header) (pairs : List (Key × Node)) : Option Outline :=
  alter? false
    (fun _ inner =>
      let name := header.key.name
      match header.isList, node? inner name with
      | false, none => (addPairs? [] pairs).map fun t => (name, .table .given t) :: inner
      | false, some (.table .implied t) =>
        -- a table implied so far stands where its own header does
        (addPairs? t pairs).map fun t =>
          (name, .table .given t) :: inner.filter fun e => e.1 ≠ name
      | true, none => (addPairs? [] pairs).map fun t => (name, .tables t []) :: inner
      | true, some (.tables last earlier) =>
        (addPairs? [] pairs).map fun t => replace inner name (.tables t (last :: earlier))
      | _, _ => none)
    header.key.path .given o

end Outline

/-! ## The document -/

/-- The name that is reserved for dates and times. -/
def datetimeMark : String := "$__toml_private_datetime"

/-- The node of the first name of a table, if that name is the reserved one. -/
def Outline.marked? (o : Outline) : Option Node :=
  o.getLast?.bind fun e => if e.1 = datetimeMark then some e.2 else none

/-- The date or time that a node is as text. -/
def Node.datetime? : Node → Option Datetime
  | .scalar (.string s) => Datetime.ofText? s
  | _ => none

/-- The value of an outline with the given table: the date or time under the reserved name, or the
table where there is no such name. -/
def Outline.value? (o : Outline) (table : Option Table) : Option Value :=
  match o.marked? with
  | some node => node.datetime?.map .datetime
  | none => table.map .table

mutual

/-- The value of a node, unless a reserved name in it has no date or time. -/
def Node.toValue? : Node → Option Value
  | .scalar v => some v
  | .list items => (Outline.toValues? items).map .array
  | .braces entries => Outline.value? entries (Outline.toTable? entries)
  | .table _ entries => Outline.value? entries (Outline.toTable? entries)
  | .tables last earlier => do
    let value ← Outline.value? last (Outline.toTable? last)
    return .array (← Outline.toItems? earlier [value])
termination_by structural node => node

/-- The table of an outline. -/
def Outline.toTable? : List (String × Node) → Option Table
  | [] => some []
  | (name, node) :: rest => do
    let t ← Outline.toTable? rest
    return Table.put t name (← node.toValue?)
termination_by structural o => o

/-- The values of nodes. -/
def Outline.toValues? : List Node → Option (List Value)
  | [] => some []
  | node :: rest => do
    let value ← node.toValue?
    return value :: (← Outline.toValues? rest)
termination_by structural nodes => nodes

/-- The values of the tables of a list, the latest first, before those already known. -/
def Outline.toItems? : List (List (String × Node)) → List Value → Option (List Value)
  | [], later => some later
  | t :: earlier, later => do
    let value ← Outline.value? t (Outline.toTable? t)
    Outline.toItems? earlier (value :: later)
termination_by structural tables => tables

end

end ProxyControl.Document
