import ProxyControl.Text.Blank

/-!
# Routing modes

The engine routes by an address list, routes everything, or routes nothing. Each mode has a name,
which is read without regard to case and to blanks around it, and a constant by which the engine
knows it.

## Main definitions

* `Mode`: the three modes
* `Mode.name`, `Mode.read?`: the name
* `Mode.constant`, `Mode.ofConstant?`: the engine's constant

## Main results

* `Mode.ofConstant?_eq_some_iff`: a constant is that of the mode it is read as, and of no other
-/

set_option autoImplicit false

namespace ProxyControl

/-- Which traffic goes through the server. -/
inductive Mode where
  /-- Addresses outside the route list. -/
  | iplist
  /-- All addresses. -/
  | global
  /-- No address. -/
  | none
  deriving DecidableEq, Repr, Inhabited

namespace Mode

/-- The modes, in the order in which constants are looked up. -/
def all : List Mode := [iplist, global, none]

/-- The name of a mode. -/
def name : Mode → String
  | iplist => "iplist"
  | global => "global"
  | none => "none"

/-- The name of a mode in a structure that is shown for inspection. -/
def inspect : Mode → String
  | iplist => "Iplist"
  | global => "Global"
  | none => "None"

/-- The constant by which the engine knows a mode. -/
def constant : Mode → UInt32
  | global => 65536
  | iplist => 65537
  | none => 65538

/-- The mode with the given constant. -/
def ofConstant? (value : UInt32) : Option Mode := all.find? fun m => m.constant == value

/-- The mode with the given name, in any case and with any blanks around it. -/
def read? (s : String) : Option Mode :=
  let word := Text.asciiLower (Text.trim s)
  if word = "iplist" then some iplist
  else if word = "global" then some global
  else if word = "none" then some none
  else Option.none

/-- Why a name was not read as a mode. -/
def unknownMessage (s : String) : String :=
  "unknown proxy mode '" ++ Text.asciiLower (Text.trim s) ++
    "' (expected iplist, global, or none)"

/-- The mode with the given name, or why there is none. -/
def parse (s : String) : Except String Mode :=
  match read? s with
  | some m => .ok m
  | Option.none => .error (unknownMessage s)

/-- A constant is that of the mode it is read as, and of no other. -/
theorem ofConstant?_eq_some_iff {value : UInt32} {m : Mode} :
    ofConstant? value = some m ↔ m.constant = value := by
  constructor
  · intro h
    simpa using List.find?_some h
  · rintro rfl
    cases m <;> decide

end Mode

end ProxyControl
