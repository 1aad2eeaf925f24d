import ProxyControl.Mode
import ProxyControl.Text.Blank

/-!
# Control lines

While a session runs, the operator types one command a line: a mode, inspection on or off, a
request for the status, or the end. The first word is read without regard to case. A command with
an argument takes the second word and leaves the rest of the line aside; a command without one
must stand alone.

## Main definitions

* `Control`: the commands
* `Control.parse`: the command on a line
-/

set_option autoImplicit false

namespace ProxyControl

/-- A command of the operator. -/
inductive Control where
  /-- Switch to a mode. -/
  | mode (m : Mode)
  /-- Switch inspection on or off. -/
  | mitm (on : Bool)
  /-- Show the status. -/
  | status
  /-- End the session. -/
  | stop
  deriving DecidableEq, Repr

namespace Control

/-- Why a line is no command. -/
def unknownMessage (line : String) : String :=
  "unknown command '" ++ Text.trim line ++
    "'; expected: mode <iplist|global|none>, mitm <on|off>, status, stop"

/-- The switch that a word stands for. -/
def readSwitch? (word : String) : Option Bool :=
  if word ∈ ["on", "1", "true"] then some true
  else if word ∈ ["off", "0", "false"] then some false
  else none

/-- The command that a verb and its argument make up. -/
def ofWords (verb : String) (argument : Option String) : Option (Except String Control) :=
  match argument with
  | some word =>
    if verb = "mode" then some ((Mode.parse word).map .mode)
    else if verb = "mitm" then (readSwitch? word).map fun on => .ok (.mitm on)
    else none
  | none =>
    if verb = "status" then some (.ok .status)
    else if verb ∈ ["stop", "quit", "exit"] then some (.ok .stop)
    else none

/-- The command on a line, or why it is none. -/
def parse (line : String) : Except String Control :=
  let words := Text.words line
  (ofWords (Text.asciiLower (words.headD "")) (words.tail.head?)).getD
    (.error (unknownMessage line))

end Control

end ProxyControl
