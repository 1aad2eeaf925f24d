import ProxyControl.Text.Number

/-!
# Session status

A start call of the engine ends with a word of bits. Four of them are conditions; one marks an
error and says nothing by itself; the others are reserved and ignored.

## Main definitions

* `Status`: the word
* `Status.both`: the bits of two words together
* `Status.conditions`: what the word says
* `Conditions.messages`: the conditions in words, always in the same order

-/

set_option autoImplicit false

namespace ProxyControl

/-- The word that ends a start call. -/
structure Status where
  /-- The bits of the word. -/
  bits : UInt32
  deriving DecidableEq, Repr

/-- The conditions that a status word holds. -/
structure Conditions where
  /-- A session was live when the call was made. -/
  alreadyRunning : Bool
  /-- The engine stopped serving. -/
  exited : Bool
  /-- The engine could not be created. -/
  createFailed : Bool
  /-- The engine crashed. -/
  panicked : Bool
  deriving DecidableEq, Repr

namespace Status

/-- The bit for a session that was live before. -/
def alreadyRunningBit : UInt32 := 1

/-- The bit for an engine that stopped serving. -/
def exitedBit : UInt32 := 2

/-- The bit for an engine that crashed. -/
def panickedBit : UInt32 := 4

/-- The bit for an engine that could not be created. -/
def createFailedBit : UInt32 := 8

/-- The bit that is set with any failure. -/
def errorBit : UInt32 := 0x8000

/-- The word without any bit. -/
def ok : Status := ⟨0⟩

/-- A session was live when the call was made. -/
def alreadyRunning : Status := ⟨alreadyRunningBit⟩

/-- The engine stopped serving. -/
def exited : Status := ⟨errorBit ||| exitedBit⟩

/-- The engine crashed. -/
def panicked : Status := ⟨errorBit ||| panickedBit⟩

/-- The engine could not be created. -/
def createFailed : Status := ⟨errorBit ||| createFailedBit⟩

/-- The bits of two words together. -/
def both (s t : Status) : Status := ⟨s.bits ||| t.bits⟩

/-- The conditions that the word holds. -/
def conditions (s : Status) : Conditions where
  alreadyRunning := s.bits &&& alreadyRunningBit != 0
  exited := s.bits &&& exitedBit != 0
  createFailed := s.bits &&& createFailedBit != 0
  panicked := s.bits &&& panickedBit != 0

/-- The word in hexadecimal, with at least four digits. -/
def render (s : Status) : String :=
  String.ofList (['0', 'x'] ++ Text.padStart 4 '0' (Text.hexadecimal s.bits.toNat))

end Status

namespace Conditions

/-- Whether the conditions call for the operator. -/
def isActionable (c : Conditions) : Bool := c.createFailed || c.panicked

/-- The conditions in words. -/
def messages (c : Conditions) : List String :=
  (if c.alreadyRunning then ["proxy already started"] else []) ++
    (if c.exited then ["proxy exited"] else []) ++
    (if c.panicked then ["proxy panicked"] else []) ++
    (if c.createFailed then ["proxy cannot be created"] else [])

end Conditions

example : Status.exited.render = "0x8002" := by decide
example : (Status.both .exited .panicked).conditions.messages =
    ["proxy exited", "proxy panicked"] := by decide

end ProxyControl
