import ProxyControl.Text.Number

/-!
# Binary floating point

A number in the format of 64 bits is kept as its word, so that it can be compared and reasoned
about exactly. Decimal text is rounded to the nearest such number, and a number is written with
the fewest digits that read back as the same one; both are computed in exact arithmetic.

## Main definitions

* `Binary64`: a number, as its word
* `Binary64.ofDecimal`: the number nearest to a decimal
* `Binary64.magnitude`: a finite number as a whole number times a power of two
* `Binary64.shortest`: the digits and the exponent that are written
* `Binary64.positional`: the written form without an exponent
* `Binary64.inspect`: the written form with an exponent for very large and very small numbers
-/

set_option autoImplicit false

namespace ProxyControl

open Text

/-- A number in the format of 64 bits: a sign, eleven bits of exponent and fifty-two of fraction. -/
structure Binary64 where
  /-- The word. -/
  bits : UInt64
  deriving DecidableEq, Repr

namespace Binary64

/-- A power of two. -/
def twoTo (n : Nat) : Nat := Nat.pow 2 n

/-- A power of ten. -/
def tenTo (n : Nat) : Nat := Nat.pow 10 n

/-- The word with the given sign, exponent field and fraction. -/
def assemble (negative : Bool) (field fraction : Nat) : Binary64 :=
  ⟨UInt64.ofNat ((if negative then twoTo 63 else 0) + field * twoTo 52 + fraction)⟩

/-- Whether the sign bit is set. -/
def isNegative (x : Binary64) : Bool := decide (twoTo 63 ≤ x.bits.toNat)

/-- The exponent field. -/
def field (x : Binary64) : Nat := x.bits.toNat / twoTo 52 % 2048

/-- The fraction. -/
def fraction (x : Binary64) : Nat := x.bits.toNat % twoTo 52

/-- An infinity. -/
def infinity (negative : Bool) : Binary64 := assemble negative 2047 0

/-- The number that is none. -/
def nan (negative : Bool) : Binary64 := assemble negative 2047 (twoTo 51)

/-- Whether the number is none. -/
def isNan (x : Binary64) : Bool := x.field = 2047 && x.fraction ≠ 0

/-- Whether the number is infinite. -/
def isInfinite (x : Binary64) : Bool := x.field = 2047 && x.fraction = 0

/-- Whether the number is a zero of either sign. -/
def isZero (x : Binary64) : Bool := x.field = 0 && x.fraction = 0

/-- The whole number `m` and the power `q` for which a finite number is `m` times two to the
`q - 1074`, its sign apart. -/
def magnitude (x : Binary64) : Nat × Nat :=
  if x.field = 0 then (x.fraction, 0) else (twoTo 52 + x.fraction, x.field - 1)

/-- The quotient nearest to a fraction, of two equally near ones the even one. -/
def roundDiv (num den : Nat) : Nat :=
  let quotient := num / den
  let twice := 2 * (num % den)
  if twice < den then quotient
  else if den < twice then quotient + 1
  else quotient + quotient % 2

/-- The finite number, or the infinity, nearest to a positive fraction. -/
def ofFraction (negative : Bool) (num den : Nat) : Binary64 :=
  let scaled := num * twoTo 1074
  let bits := (scaled / den).log2
  let shift := bits - 52
  let m := roundDiv scaled (den * twoTo shift)
  if m < twoTo 52 then assemble negative 0 m
  else
    -- rounding up can carry into the exponent
    let field := if m = twoTo 53 then shift + 2 else shift + 1
    if 2047 ≤ field then infinity negative
    else assemble negative field (m % twoTo 52)

/-- The number nearest to a whole number times a power of ten. Magnitudes far outside the format
are settled before any power is computed. -/
def ofDecimal (negative : Bool) (digits : Nat) (exponent : Int) : Binary64 :=
  if digits = 0 then assemble negative 0 0
  else
    let size : Int := exponent + (decimal digits).length
    if 400 < size then infinity negative
    else if size < -400 then assemble negative 0 0
    else if 0 ≤ exponent then ofFraction negative (digits * tenTo exponent.toNat) 1
    else ofFraction negative digits (tenTo (-exponent).toNat)

/-- The greatest power of ten, plus 400, that is not above the fraction. -/
def decimalSize (num den : Nat) : Nat := (decimal (num * tenTo 400 / den)).length - 1

/-- The number of a decimal grid beside a value that rounds back to it: the nearer one, and of two
equally near ones the one farther from zero. The value is `num / den`, the grid is `step / den`, and
the reals that round to the value are those between `low` and `high`, in units of `1 / den`. -/
def gridHit? (num low high step : Nat) (closed : Bool) : Option Nat :=
  let below := num / step
  let fits (n : Nat) : Bool :=
    if closed then low ≤ n * step && n * step ≤ high else low < n * step && n * step < high
  if fits below ∧ (2 * (num % step) < step ∨ ¬ fits (below + 1)) then some below
  else if fits (below + 1) then some (below + 1)
  else none

/-- The fewest digits, not fewer than `17 - left`, that read back as the value, with the power of
ten, plus 400, of the last one. -/
def fewestDigits (num den low high size : Nat) (closed : Bool) : Nat → Nat × Nat
  | 0 => (num * tenTo 400 / (den * tenTo (size - 16)), size - 16)
  | left + 1 =>
    let place := size - (16 - left)
    let step := den * tenTo place
    match gridHit? (num * tenTo 400) (low * tenTo 400) (high * tenTo 400) step closed with
    | some n => (n, place)
    | none => fewestDigits num den low high size closed left

/-- The digits of a finite number that is not zero, and the power of ten of the last one: the
fewest digits that read back, and of those the nearest. -/
def shortest (x : Binary64) : Nat × Int :=
  let (m, q) := x.magnitude
  let num := 4 * m * twoTo q
  let den := 4 * twoTo 1074
  let gap := twoTo q
  -- below a power of two the next number is only half as far away
  let low := if m = twoTo 52 ∧ 0 < q then num - gap else num - 2 * gap
  let high := num + 2 * gap
  let (digits, place) := fewestDigits num den low high (decimalSize num den) (m % 2 = 0) 17
  (digits, (place : Int) - 400)

/-- The digits without zeros at their end. -/
def trimZeros : Nat → Nat × Int → Nat × Int
  | 0, d => d
  | fuel + 1, (n, e) => if n % 10 = 0 ∧ n ≠ 0 then trimZeros fuel (n / 10, e + 1) else (n, e)

/-- The sign that is written before the digits. -/
def signChars (x : Binary64) : List Char := if x.isNegative then ['-'] else []

/-- Digits with the point at its place and no exponent; a whole number has no point. -/
def placePoint (digits : Nat) (exponent : Int) : List Char :=
  let cs := decimal digits
  if 0 ≤ exponent then cs ++ List.replicate exponent.toNat '0'
  else
    let places := (-exponent).toNat
    let padded := padStart (places + 1) '0' cs
    padded.take (padded.length - places) ++ ['.'] ++ padded.drop (padded.length - places)

/-- The written form without an exponent. -/
def positional (x : Binary64) : List Char :=
  if x.isNan then "NaN".toList
  else if x.isInfinite then x.signChars ++ "inf".toList
  else if x.isZero then x.signChars ++ ['0']
  else
    let (digits, exponent) := trimZeros 20 x.shortest
    x.signChars ++ placePoint digits exponent

/-- Whether the number is whole. -/
def isWhole (x : Binary64) : Bool :=
  !x.isNan && !x.isInfinite &&
    (x.isZero || (let (m, q) := x.magnitude; decide (m * twoTo q % twoTo 1074 = 0)))

/-- Digits with a point after the first one and an exponent. -/
def scientific (digits : Nat) (exponent : Int) : List Char :=
  let cs := decimal digits
  let power := exponent + ((cs.length : Int) - 1)
  let tail := cs.drop 1
  cs.take 1 ++ (if tail = [] then [] else '.' :: tail) ++ ['e'] ++ (toString power).toList

/-- The written form for inspection: with an exponent from ten to the sixteenth on and below a
ten-thousandth, else with at least one digit after the point. -/
def inspect (x : Binary64) : List Char :=
  if x.isNan || x.isInfinite then x.positional
  else if x.isZero then x.signChars ++ "0.0".toList
  else
    let (digits, exponent) := trimZeros 20 x.shortest
    let power := exponent + ((decimal digits).length : Int) - 1
    if 16 ≤ power ∨ power < -4 then x.signChars ++ scientific digits exponent
    else if x.isWhole then x.positional ++ ".0".toList
    else x.positional

end Binary64

end ProxyControl
