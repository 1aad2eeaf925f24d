import ProxyControl.Text.Utf8

/-!
# Lines from an engine's output

What a child process writes becomes one record for each line, and one more for a last line that
does not end. A line loses the line end and all carriage returns before it, is decoded as text
whatever its bytes are, and is cut before the first character that does not fit.

## Main definitions

* `LineReader`: what of the last line has been read
* `LineReader.feed`, `LineReader.finish`: the lines that some more bytes, or the end, complete
* `lineText`: the text of a line
* `outputLines`: the texts of all lines
-/

set_option autoImplicit false

namespace ProxyControl

open Text

/-- How many bytes of a line are kept. -/
def maxLineBytes : Nat := 2047

/-- Whether a character is dropped from the end of a line. -/
def isLineEnd (c : Char) : Bool := c = '\r' || c = '\n'

/-- The text of a line, from its bytes. -/
def lineText (bytes : List UInt8) : String :=
  takeUtf8 maxLineBytes (String.ofList (dropEndWhile isLineEnd (lossyChars bytes)))

/-- What of the last line has been read, the latest byte first. -/
structure LineReader where
  /-- The bytes. -/
  pending : List UInt8
  deriving DecidableEq, Repr

namespace LineReader

/-- A reader at the start of a line. -/
def initial : LineReader := ⟨[]⟩

/-- The lines that some more bytes complete, after those already complete, which are held in
reverse. -/
def feedFrom (done : List (List UInt8)) (pending : List UInt8) :
    List UInt8 → List (List UInt8) × LineReader
  | [] => (done.reverse, ⟨pending⟩)
  | b :: bytes =>
    if b = 10 then feedFrom ((b :: pending).reverse :: done) [] bytes
    else feedFrom done (b :: pending) bytes

/-- The lines that some more bytes complete. -/
def feed (r : LineReader) (bytes : List UInt8) : List (List UInt8) × LineReader :=
  feedFrom [] r.pending bytes

/-- The line that the end completes, if any of it was read. -/
def finish (r : LineReader) : List (List UInt8) :=
  if r.pending = [] then [] else [r.pending.reverse]

/-- The lines of output that comes in pieces and then ends. -/
def linesOf (r : LineReader) : List (List UInt8) → List (List UInt8)
  | [] => r.finish
  | piece :: pieces => (r.feed piece).1 ++ linesOf (r.feed piece).2 pieces

end LineReader

/-- The texts of the lines of output that comes in pieces. -/
def outputLines (pieces : List (List UInt8)) : List String :=
  (LineReader.initial.linesOf pieces).map lineText

end ProxyControl
