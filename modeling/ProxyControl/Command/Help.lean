import ProxyControl.Command.Console
import ProxyControl.Command.Invocation

/-!
# Help

The page about a command says what the command does, how it is called, and what can be given to it.
What is given stands in a column of its own with its meaning beside it; where that column is wide
and some meaning long, all meanings stand on lines of their own. A command with more to say has a
long page too, with blank lines between its options.

The options of a page come in the order in which each command lists its own, and those that every
command has are the first and the second of that order too. Of two options in the same place, their
letters or else their names decide.

## Main definitions

* `HelpEntry`: something that can be given, with its meaning
* `commandMeaning`, `commandDetails?`, `optionMeaning`: what commands and options mean
* `helpPage`: the lines of a page
-/

set_option autoImplicit false

namespace ProxyControl

/-! ## Entries -/

/-- Something that can be given, with its meaning. -/
structure HelpEntry where
  /-- What is given. -/
  label : String
  meaning : String
  /-- What is to be known about its values. -/
  notes : List String
  deriving DecidableEq, Repr

namespace HelpEntry

/-- How many characters a line has. -/
def lineWidth : Nat := 100

/-- The widest column that leaves every meaning beside it. -/
def narrowWidth : Nat := 40

/-- Whether a meaning does not fit beside labels of which the longest has the given length. -/
def isCrowded (longest : Nat) (e : HelpEntry) : Bool :=
  let column := longest + 8
  let size := e.meaning.length + (" ".intercalate e.notes).length
  narrowWidth < column && column ≤ lineWidth && lineWidth < column + size

/-- The meaning with the notes after it. -/
def text (e : HelpEntry) : String :=
  " ".intercalate (if e.meaning = "" then e.notes else e.meaning :: e.notes)

/-- What stands before a meaning on a line of its own. -/
def indent : String := "          "

/-- An entry with its meaning beside it. -/
def besideLines (longest : Nat) (e : HelpEntry) : List String :=
  ["  " ++ padRight (longest + 2) e.label ++ e.text]

/-- An entry with its meaning below it. -/
def belowLines (e : HelpEntry) : List String := ["  " ++ e.label, indent ++ e.text]

/-- An entry with its meaning below it, and the notes below that after a blank line. -/
def longLines (e : HelpEntry) : List String :=
  ["  " ++ e.label, indent ++ e.meaning] ++
    if e.notes.isEmpty then [] else indent :: e.notes.map fun note => indent ++ note

end HelpEntry

/-- Blocks of lines with a blank line between any two. -/
def withBlankLines (blocks : List (List String)) : List String :=
  (blocks.intersperse [""]).flatten

/-- The lines of some entries under a title, and none where there are no entries. -/
def sectionLines (title : String) (isLong : Bool) (entries : List HelpEntry) : List String :=
  let longest := entries.foldl (fun n e => max n e.label.length) 2
  if entries.isEmpty then []
  else
    title ::
      if isLong then withBlankLines (entries.map HelpEntry.longLines)
      else if entries.any fun e => e.isCrowded longest then
        entries.flatMap HelpEntry.belowLines
      else entries.flatMap fun e => e.besideLines longest

/-! ## Meanings -/

/-- The command that prints help. -/
def helpCommand : String := "help"

/-- What a command does. -/
def commandMeaning : List String → String
  | [] =>
    "Control surface for an external proxy engine: session lifecycle, log streaming, and " ++
      "connection profiles"
  | ["run"] => "Start a session and stream its log until stopped"
  | ["profiles"] => "Manage saved profiles"
  | ["profiles", "list"] => "List saved profiles (keys and passwords are never shown)"
  | ["profiles", "delete"] => "Delete the profile saved for a server address"
  | ["profiles", "import"] => "Copy profiles from a legacy flat file into the store"
  | ["settings"] => "Show or change global settings"
  | ["settings", "show"] => "Print the effective settings and any validation warnings"
  | ["settings", "set"] => "Change one or more settings"
  | ["relay"] => "Serve the HTTP-triggered TCP/DNS relay"
  | _ => "Print this message or the help of the given subcommand(s)"

/-- What a command does, in more words. -/
def commandDetails? : List String → Option (List String)
  | [] =>
    some ["FlightDeck - control surface for an external proxy engine.", "",
      "Starts and stops engine sessions, streams their logs, and keeps the saved connection " ++
        "profiles."]
  | ["run"] =>
    some ["Start a session and stream its log until stopped.", "",
      "While running, stdin accepts `mode <iplist|global|none>`, `mitm <on|off>`, `status`, " ++
        "and `stop`. Closing stdin stops the session."]
  | _ => none

/-- What an option of a run means. -/
def runMeaning : String → String
  | "server" =>
    "Upstream server address (`host:port`). A saved profile for this address supplies every " ++
      "field not given below"
  | "key" => "Shared encryption key"
  | "local" => "Local listen address"
  | "user" => "Basic-auth user name"
  | "pass" => "Basic-auth password"
  | "partial" => "Encrypt only part of each payload"
  | "udp" => "UDP relay port"
  | "udp-tcp" => "UDP-over-TCP connection multiplier"
  | "domain" => "Dummy domain presented to the upstream"
  | "mode" => "Routing mode applied once the engine is ready"
  | "mitm" => "Enable MITM inspection after the grace delay"
  | "log-level" => "Engine log level (dbg, log, warn, err, off)"
  | "dry-run" => "Drive the built-in in-process engine instead of an executable"
  | "engine" => "Engine executable to launch"
  | "engine-arg" => "Extra argument passed to the engine executable (repeatable)"
  | _ => ""

/-- What an option of a command means. -/
def optionMeaning (path : List String) (name : String) : String :=
  match path, name with
  | _, "debug" => "Enable debug logging (equivalent to RUST_LOG=debug)"
  | _, "config-dir" => "Keep the store, route list, and scratch files in this directory"
  | ["run"], name => runMeaning name
  | ["profiles", "list"], "json" => "Print JSON instead of a table"
  | ["profiles", "import"], "full-escaping" =>
    "The file escapes backslashes and line breaks too, not just pipes"
  | ["relay"], "listen" => "Address to listen on"
  | _, _ => ""

/-! ## Pages -/

/-- What an option is called in general terms on the page that lists it. -/
def optionLabel (o : OptionSpec) : String :=
  let letter := match o.letter with
    | some c => "-" ++ c.toString ++ ", "
    | none => "    "
  let plural := if o.isRepeatable then "S" else ""
  let value := match o.value with
    | some _ => " <" ++ (o.name.replace "-" "_").toUpper ++ plural ++ ">"
    | none => ""
  letter ++ "--" ++ o.name ++ value

/-- What is to be known about the values of an option. -/
def optionNotes (path : List String) (o : OptionSpec) : List String :=
  (if path = ["relay"] ∧ o.name = "listen" then
      ["[default: " ++ Invocation.defaultListen ++ "]"]
    else []) ++
  (if o.value = some .truth then ["[possible values: true, false]"] else [])

/-- The entry of an option. -/
def optionEntry (path : List String) (o : OptionSpec) : HelpEntry :=
  ⟨optionLabel o, optionMeaning path o.name, optionNotes path o⟩

/-- Options with their places on a page, and with what decides between two in the same place. -/
def placed (options : List OptionSpec) : List (Nat × String × OptionSpec) :=
  options.zipIdx.map fun (o, place) =>
    (place, (o.letter.map Char.toString).getD o.name, o)

/-- The options of a page in their order, without those for help and for the version. -/
def pageOptions (path : List String) : List OptionSpec :=
  let all := placed (Invocation.ownOptions path) ++ placed Invocation.sharedOptions
  (all.mergeSort fun a b => decide (a.1 < b.1) || (a.1 = b.1 && decide (a.2.1 ≤ b.2.1))).map
    (·.2.2)

/-- The entry of the option for help. -/
def helpEntry (path : List String) (isLong : Bool) : HelpEntry :=
  let more :=
    if (commandDetails? path).isNone then ""
    else if isLong then " (see a summary with '-h')"
    else " (see more with '--help')"
  ⟨optionLabel helpOption, "Print help" ++ more, []⟩

/-- The entries of the words without a name of their own. -/
def placeEntries : List String → List HelpEntry
  | ["profiles", "delete"] => [⟨"<SERVER>", "", []⟩]
  | ["profiles", "import"] =>
    [⟨"[FILE]", "Legacy file (defaults to server.txt in the config directory)", []⟩]
  | path =>
    if path.getLast? = some helpCommand then
      [⟨"[COMMAND]...", "Print help for the subcommand(s)", []⟩]
    else []

/-- The entries of the further commands. -/
def commandEntries (path : List String) : List HelpEntry :=
  match Invocation.commands path with
  | [] => []
  | names =>
    (names ++ [helpCommand]).map fun name => ⟨name, commandMeaning (path ++ [name]), []⟩

/-- The entries of the options. -/
def optionEntries (path : List String) (isLong : Bool) : List HelpEntry :=
  if path.getLast? = some helpCommand then []
  else
    (pageOptions path).map (optionEntry path) ++ [helpEntry path isLong] ++
      if path = [] then [⟨optionLabel versionOption, "Print version", []⟩] else []

/-- How a command is called. -/
def usageLine (path : List String) : String :=
  " ".intercalate (["Usage:", "flightdeck"] ++ path ++
    (if path.getLast? = some helpCommand then [] else ["[OPTIONS]"]) ++
    (if path = ["run"] then ["--server <SERVER>"] else []) ++
    (placeEntries path).map (·.label) ++
    if Invocation.commands path = [] then [] else ["<COMMAND>"])

/-- The lines of the page about a command, of its long one if there is one and it is wanted. -/
def helpPage (path : List String) (wantsLong : Bool) : List String :=
  let isLong := wantsLong && (commandDetails? path).isSome
  let opening := if isLong then (commandDetails? path).getD [] else [commandMeaning path]
  withBlankLines <| ([opening, [usageLine path],
    sectionLines "Commands:" false (commandEntries path),
    sectionLines "Arguments:" isLong (placeEntries path),
    sectionLines "Options:" isLong (optionEntries path isLong)]).filter (· ≠ [])

end ProxyControl
