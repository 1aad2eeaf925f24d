import ProxyControl.Text.Blank
import ProxyControl.Timestamp

/-!
# Log records and lines

An engine's record has a stamp, which is a time unless it is zero or past the last time that can
be told. A line of the display is a record of the engine or a notice of the controller.

## Main definitions

* `LogRecord`: a record of the engine
* `LogLine`: a line of the display
* `LogLine.isShown`: whether a line is worth showing
-/

set_option autoImplicit false

namespace ProxyControl

/-- What an engine's log buffer holds: a stamp and a text. -/
structure LogEntry where
  /-- Nanoseconds since the start of 1970, or zero. -/
  stamp : Nat
  text : String
  deriving DecidableEq, Repr

/-- What reading outside an engine's log buffer gives. -/
def LogEntry.blank : LogEntry := ⟨0, ""⟩

/-- A log entry as a stream hands it on, numbered within the stream. -/
structure LogRecord where
  /-- The number of the record in its stream, from zero. -/
  seq : Nat
  entry : LogEntry
  deriving DecidableEq, Repr

/-- The last stamp that is a time. -/
def maxStamp : Nat := 9223372036854775807

/-- The time of an entry, if its stamp is one. -/
def LogEntry.time? (e : LogEntry) : Option Timestamp :=
  if e.stamp = 0 ∨ maxStamp < e.stamp then none else some ⟨e.stamp⟩

/-- A line of the display. -/
inductive LogLine where
  | engine (time : Option Timestamp) (text : String)
  | notice (text : String)
  deriving DecidableEq, Repr

namespace LogLine

/-- The line of a record. -/
def ofRecord (r : LogRecord) : LogLine := .engine r.entry.time? r.entry.text

/-- Whether a line is worth showing: a notice always is, a record unless it is blank. -/
def isShown : LogLine → Bool
  | .engine _ text => !Text.isBlankText text
  | .notice _ => true

end LogLine

end ProxyControl
