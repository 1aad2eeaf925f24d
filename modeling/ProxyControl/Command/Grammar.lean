import ProxyControl.LogLevel
import ProxyControl.Mode
import ProxyControl.Text.Number

/-!
# Words of a command line

A command line is a list of words. Commands nest: each level has options, places for words without
a name, and names of further commands. An option is given by its long name after two hyphens, or by
its letter after one, where several letters can stand in one word. A value is the rest of the word,
with or without an equals sign after a letter, or the next word unless that could be an option. Two
hyphens alone end the options.

An option is given once at most on each level, unless it may be repeated. Words are read in order,
and the first thing that is wrong decides, as does a request for help or for the version.

## Main definitions

* `ValueKind`: what a value must be
* `OptionSpec`, `Level`, `Grammar`: what can be given
* `Bindings`: what is given
* `Grammar.read`: the bindings of a command line
-/

set_option autoImplicit false

namespace ProxyControl

/-- What a value must be. -/
inductive ValueKind where
  | text
  /-- A path, which is not empty. -/
  | path
  | truth
  /-- A whole number from zero to a largest one, where a sign may stand before it. -/
  | whole (largest : Nat)
  /-- A whole number from zero to a largest one, where no minus may stand before it. -/
  | count (largest : Nat)
  | mode
  | logLevel
  deriving DecidableEq, Repr

namespace ValueKind

/-- The truth value that a word stands for. -/
def readTruth? (word : String) : Option Bool :=
  if word = "true" then some true else if word = "false" then some false else none

/-- The number from zero to a largest one that a word stands for. -/
def readWhole? (largest : Nat) (word : String) : Option Nat :=
  (Text.readInt? word.toList).bind fun n =>
    if 0 ≤ n ∧ n ≤ largest then some n.toNat else none

/-- Whether a word is a value. -/
def accepts (word : String) : ValueKind → Bool
  | text => true
  | path => word ≠ ""
  | truth => (readTruth? word).isSome
  | whole largest => (readWhole? largest word).isSome
  | count largest => (Text.readUnsigned? largest word.toList).isSome
  | mode => (Mode.read? word).isSome
  | logLevel => (LogLevel.read? word).isSome

end ValueKind

/-- An option. -/
structure OptionSpec where
  name : String
  letter : Option Char
  /-- What its value must be, or nothing where it has none. -/
  value : Option ValueKind
  /-- Whether it may be repeated. -/
  isRepeatable : Bool
  deriving DecidableEq, Repr

namespace OptionSpec

/-- An option with a value. -/
def valued (name : String) (kind : ValueKind) : OptionSpec := ⟨name, none, some kind, false⟩

/-- An option without a value. -/
def flag (name : String) : OptionSpec := ⟨name, none, none, false⟩

/-- An option with a letter too. -/
def orLetter (o : OptionSpec) (c : Char) : OptionSpec := { o with letter := some c }

end OptionSpec

/-- What can be given after the name of a command. -/
structure Level where
  options : List OptionSpec
  /-- The names and the kinds of the words without a name of their own. -/
  places : List (String × ValueKind)
  /-- The names of the commands that can follow. -/
  commands : List String
  deriving DecidableEq, Repr

/-- What can be given after the names that lead to a command. -/
abbrev Grammar := List String → Level

/-- The reasons why a command line is not carried out. -/
inductive Refusal where
  /-- Something is missing or wrong. -/
  | misuse
  /-- It asks for help on the command that some names lead to, at length or in short. -/
  | help (path : List String) (isLong : Bool)
  | version
  deriving DecidableEq, Repr

/-- The option that asks for help. -/
def helpOption : OptionSpec := (OptionSpec.flag "help").orLetter 'h'

/-- The option that asks for the version. -/
def versionOption : OptionSpec := (OptionSpec.flag "version").orLetter 'V'

/-- What is given on a command line. -/
structure Bindings where
  /-- The names that lead to the command. -/
  path : List String
  /-- The names of options and places with their words, the oldest first. -/
  values : List (String × String)
  deriving DecidableEq, Repr

namespace Bindings

/-- Whether a name is given. -/
def has (b : Bindings) (name : String) : Bool := b.values.any fun v => v.1 = name

/-- All words of a name. -/
def all (b : Bindings) (name : String) : List String :=
  (b.values.filter fun v => v.1 = name).map (·.2)

/-- The last word of a name, which is that of the innermost level. -/
def last? (b : Bindings) (name : String) : Option String := (b.all name).getLast?

end Bindings

/-- How far a command line has been read. -/
structure Reading where
  /-- What is given so far. -/
  bindings : Bindings
  /-- What can be given here. -/
  level : Level
  here : List String
  optionsEnded : Bool

namespace Reading

/-- A word bound to a name. -/
def put (name word : String) (r : Reading) : Reading :=
  { r with bindings := { r.bindings with values := r.bindings.values ++ [(name, word)] } }

/-- An option bound to its value, or to nothing. -/
def bindOption (o : OptionSpec) (word : String) (r : Reading) : Except Refusal Reading :=
  if !(o.value.map (·.accepts word)).getD true then .error .misuse
  else if o.name ∈ r.here ∧ o.isRepeatable = false then .error .misuse
  else if o = versionOption then .error .version
  else .ok { r.put o.name word with here := o.name :: r.here }

/-- A word bound to the next place. -/
def bindPlace (word : String) (r : Reading) : Except Refusal Reading :=
  match r.level.places with
  | [] => .error .misuse
  | (name, kind) :: places =>
    if kind.accepts word then
      .ok { r.put name word with level := { r.level with places := places } }
    else .error .misuse

/-- The level of a further command. -/
def descend (g : Grammar) (name : String) (r : Reading) : Reading :=
  let path := r.bindings.path ++ [name]
  ⟨{ r.bindings with path := path }, g path, [], false⟩

/-- The option and its value in a word with a long name, which starts after the hyphens. -/
def readLong (cs : List Char) (r : Reading) : Except Refusal (Reading × Option OptionSpec) :=
  let name := String.ofList (cs.takeWhile (· ≠ '='))
  let attached := match cs.dropWhile (· ≠ '=') with
    | [] => none
    | _ :: value => some (String.ofList value)
  match r.level.options.find? fun o => o.name = name, attached with
  | none, _ => .error .misuse
  | some o, none =>
    if o = helpOption then .error (.help r.bindings.path true)
    else if o.value.isSome then .ok (r, some o)
    else do return (← r.bindOption o "", none)
  | some o, some word =>
    if o.value.isSome then do return (← r.bindOption o word, none) else .error .misuse

/-- The options in a word with letters, which start after the hyphen. -/
def readLetters : List Char → Reading → Except Refusal (Reading × Option OptionSpec)
  | [], r => .ok (r, none)
  | c :: cs, r =>
    match r.level.options.find? fun o => o.letter = some c with
    | none => .error .misuse
    | some o =>
      if o = helpOption then .error (.help r.bindings.path false)
      else if o.value.isSome then
        match cs with
        | [] => .ok (r, some o)
        | '=' :: value => do return (← r.bindOption o (String.ofList value), none)
        | value => do return (← r.bindOption o (String.ofList value), none)
      else do readLetters cs (← r.bindOption o "")

/-- Whether a word could be an option. -/
def isOptionWord (word : String) : Bool :=
  match word.toList with
  | '-' :: _ :: _ => true
  | _ => false

/-- One word, and the option whose value the next word is. -/
def readWord (g : Grammar) (word : String) (r : Reading) :
    Except Refusal (Reading × Option OptionSpec) :=
  if r.optionsEnded then do return (← r.bindPlace word, none)
  else if word ∈ r.level.commands then .ok (r.descend g word, none)
  else
    match word.toList with
    | ['-', '-'] => .ok ({ r with optionsEnded := true }, none)
    | '-' :: '-' :: cs => r.readLong cs
    | '-' :: c :: cs => r.readLetters (c :: cs)
    | _ => do return (← r.bindPlace word, none)

/-- What becomes of a request for help on the command that some words name. Help itself is a command
wherever there are further ones. -/
def helpOn (g : Grammar) (path : List String) : List String → Refusal
  | [] => .help path true
  | word :: words =>
    let commands := (g path).commands
    if word ∈ commands ∨ (word = "help" ∧ commands ≠ []) then helpOn g (path ++ [word]) words
    else .misuse

/-- Words read in order, the first of which is the value of an option if one is given. -/
def readWords (g : Grammar) :
    List String → Option OptionSpec → Reading → Except Refusal Reading
  | [], none, r => .ok r
  | [], some _, _ => .error .misuse
  | word :: words, some o, r =>
    if isOptionWord word then .error .misuse
    else do readWords g words none (← r.bindOption o word)
  | word :: words, none, r =>
    if word = "help" ∧ r.optionsEnded = false ∧ r.level.commands ≠ [] then
      .error (helpOn g r.bindings.path words)
    else do
      let (r, pending) ← r.readWord g word
      readWords g words pending r

end Reading

/-- The bindings of a command line, which must name a command to its end. -/
def Grammar.read (g : Grammar) (words : List String) : Except Refusal Bindings :=
  match Reading.readWords g words none ⟨⟨[], []⟩, g [], [], false⟩ with
  | .error e => .error e
  | .ok r => if r.level.commands = [] then .ok r.bindings else .error .misuse

end ProxyControl
