import ProxyControl.Log.Record

/-!
# The display buffer

The display keeps the latest lines worth showing, at least one.

## Main definitions

* `LogBuffer`: the lines that are kept, the oldest first
* `LogBuffer.push`: a line added, and whether it was
* `LogBuffer.clear`: no lines
-/

set_option autoImplicit false

namespace ProxyControl

/-- The lines that the display keeps. -/
structure LogBuffer where
  /-- How many lines are kept at most. -/
  capacity : Nat
  /-- The lines, the oldest first. -/
  lines : List LogLine
  deriving DecidableEq, Repr

namespace LogBuffer

/-- An empty buffer for `requested` lines, or for one if none were requested. -/
def ofCapacity (requested : Nat) : LogBuffer := ⟨max requested 1, []⟩

/-- The number of lines. -/
def size (b : LogBuffer) : Nat := b.lines.length

/-- The buffer after a line was offered, and whether the line was kept. A line that is not worth
showing changes nothing; any other one is kept, and the oldest lines make room for it. -/
def push (b : LogBuffer) (line : LogLine) : LogBuffer × Bool :=
  if line.isShown then
    ({ b with lines := b.lines.drop (b.lines.length + 1 - b.capacity) ++ [line] }, true)
  else (b, false)

/-- The buffer without its lines. -/
def clear (b : LogBuffer) : LogBuffer := { b with lines := [] }

end LogBuffer

end ProxyControl
