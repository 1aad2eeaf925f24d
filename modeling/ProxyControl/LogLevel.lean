import ProxyControl.Text.Blank

/-!
# Engine log levels

How much the engine logs. Two of the levels can be written in two ways; each is shown in one.

## Main definitions

* `LogLevel`: the five levels
* `LogLevel.name`, `LogLevel.read?`: the name
-/

set_option autoImplicit false

namespace ProxyControl

/-- How much the engine logs. -/
inductive LogLevel where
  /-- Everything. -/
  | debug
  /-- What an operator follows. -/
  | log
  /-- What may be wrong. -/
  | warn
  /-- What is wrong. -/
  | error
  /-- Nothing. -/
  | off
  deriving DecidableEq, Repr

namespace LogLevel

/-- The name of a level. -/
def name : LogLevel → String
  | debug => "dbg"
  | log => "log"
  | warn => "warn"
  | error => "err"
  | off => "off"

/-- The name of a level in a structure that is shown for inspection. -/
def inspect : LogLevel → String
  | debug => "Debug"
  | log => "Log"
  | warn => "Warn"
  | error => "Error"
  | off => "Off"

/-- The level with the given name, in any case and with any blanks around it. -/
def read? (s : String) : Option LogLevel :=
  let word := Text.asciiLower (Text.trim s)
  if word = "dbg" ∨ word = "debug" then some debug
  else if word = "log" ∨ word = "info" then some log
  else if word = "warn" then some warn
  else if word = "err" ∨ word = "error" then some error
  else if word = "off" then some off
  else none

/-- Why a name was not read as a level. -/
def unknownMessage (s : String) : String :=
  "unknown engine log level '" ++ Text.asciiLower (Text.trim s) ++
    "' (expected dbg, log, warn, err, or off)"

/-- The level with the given name, or why there is none. -/
def parse (s : String) : Except String LogLevel :=
  match read? s with
  | some l => .ok l
  | none => .error (unknownMessage s)

end LogLevel

end ProxyControl
