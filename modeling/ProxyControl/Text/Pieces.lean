/-!
# Pieces of a sequence

A sequence is cut at the elements of a class, or into the segments that a terminator ends. Both
serve characters and bytes alike.

## Main definitions

* `splitWhere`: the pieces between the elements of a class
* `segments`: the pieces that a terminator ends, and a last one without it
* `lines`: the lines of text
* `hasPiece`: whether a sequence holds another one
* `dropEndWhile`: a sequence without the last elements of a class
-/

set_option autoImplicit false

namespace ProxyControl.Text

variable {α : Type}

/-- Whether a sequence holds another one in one piece. -/
def hasPiece [BEq α] (piece : List α) : List α → Bool
  | [] => piece.isEmpty
  | x :: xs => piece.isPrefixOf (x :: xs) || hasPiece piece xs

/-- The pieces up to the elements that satisfy `p`, when those of `piece` have been read in
reverse. -/
def splitWhereFrom (p : α → Bool) (piece : List α) : List α → List (List α)
  | [] => [piece.reverse]
  | x :: xs =>
    if p x then piece.reverse :: splitWhereFrom p [] xs else splitWhereFrom p (x :: piece) xs

/-- The pieces between the elements that satisfy `p`: one more than there are such elements. -/
def splitWhere (p : α → Bool) (xs : List α) : List (List α) := splitWhereFrom p [] xs

/-- Elements without the last ones that satisfy `p`. -/
def dropEndWhile (p : α → Bool) (xs : List α) : List α := (xs.reverse.dropWhile p).reverse

/-- The pieces that the terminator ends, each with `true`, and a non-empty rest with `false`. -/
def segments [DecidableEq α] (terminator : α) (xs : List α) : List (List α × Bool) :=
  let pieces := splitWhere (fun x => decide (x = terminator)) xs
  let rest := pieces.getLast?.getD []
  pieces.dropLast.map (·, true) ++ if rest = [] then [] else [(rest, false)]

/-- Text without one carriage return at its end. -/
def dropCarriageReturn (cs : List Char) : List Char :=
  if cs.getLast? = some '\r' then cs.dropLast else cs

/-- The lines of text, without the line feed, or the carriage return and line feed, that end
them. -/
def lines (cs : List Char) : List (List Char) :=
  (segments '\n' cs).map fun s => if s.2 then dropCarriageReturn s.1 else s.1

example : lines "a\r\n\nb\r".toList = ["a".toList, [], "b\r".toList] := by decide

end ProxyControl.Text
