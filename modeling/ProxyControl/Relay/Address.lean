import ProxyControl.Text.Number
import ProxyControl.Text.Pieces

/-!
# Network addresses

An address of the fourth version is four numbers with points between them. One of the sixth version
is eight groups of up to four hexadecimal digits with colons between them, where two colons in a
row stand for groups of zero, and where the last two groups can be written as an address of the
fourth version. It is written in small letters with the first of its longest runs of zeros left
out, and an address of the fourth version inside one of the sixth keeps its points.

## Main definitions

* `Address`: an address of either version
* `Address.read?`: the address that some text is
* `Address.render`: the written form
-/

set_option autoImplicit false

namespace ProxyControl

open Text

/-- A network address. -/
inductive Address where
  /-- Four numbers up to 255. -/
  | four (octets : List Nat)
  /-- Eight groups up to 65535. -/
  | six (groups : List Nat)
  deriving DecidableEq, Repr

namespace Address

/-! ## Reading -/

/-- A number up to 255 without leading zeros, and the text after it. -/
def readOctet (cs : List Char) : Option (Nat × List Char) :=
  let digits := cs.takeWhile isDecimal
  let n := valueInBase 10 digits
  let hasLeadingZero := digits.head? = some '0' ∧ digits ≠ ['0']
  if digits = [] ∨ 3 < digits.length ∨ 255 < n ∨ hasLeadingZero then none
  else some (n, cs.dropWhile isDecimal)

/-- Four numbers with points between them, and the text after them. -/
def readOctets (cs : List Char) : Option (List Nat × List Char) := do
  let (a, cs) ← readOctet cs
  let (b, cs) ← if cs.head? = some '.' then readOctet cs.tail else none
  let (c, cs) ← if cs.head? = some '.' then readOctet cs.tail else none
  let (d, cs) ← if cs.head? = some '.' then readOctet cs.tail else none
  return ([a, b, c, d], cs)

/-- A group of up to four hexadecimal digits, and the text after it. -/
def readGroup (cs : List Char) : Option (Nat × List Char) :=
  let digits := cs.takeWhile isHexadecimal
  if digits = [] ∨ 4 < digits.length then none
  else some (valueInBase 16 digits, cs.dropWhile isHexadecimal)

/-- The two groups that four numbers make up. -/
def groupsOfOctets : List Nat → List Nat
  | a :: b :: rest => (256 * a + b) :: groupsOfOctets rest
  | _ => []

/-- At most so many groups with colons between them, whether the last two were written as an address
of the fourth version, and the text after them. -/
def readGroups : Nat → Bool → List Char → List Nat × Bool × List Char
  | 0, _, cs => ([], false, cs)
  | left + 1, isFirst, cs =>
    let body := if isFirst then some cs else if cs.head? = some ':' then some cs.tail else none
    match body with
    | none => ([], false, cs)
    | some body =>
      -- four octets take up two groups, so they cannot be the last one alone
      match if 0 < left then readOctets body else none with
      | some (octets, rest) => (groupsOfOctets octets, true, rest)
      | none =>
        match readGroup body with
        | none => ([], false, cs)
        | some (group, rest) =>
          let (groups, hasOctets, rest) := readGroups left false rest
          (group :: groups, hasOctets, rest)

/-- The eight groups that some text is, with or without two colons in a row. -/
def readSix (cs : List Char) : Option (List Nat) :=
  let (before, hasOctets, rest) := readGroups 8 true cs
  if before.length = 8 then if rest = [] then some before else none
  else if hasOctets then none
  else match rest with
    | ':' :: ':' :: rest =>
      let (after, _, rest) := readGroups (7 - before.length) true rest
      if rest = [] then
        -- the two colons stand for one group of zeros at least
        some (before ++ List.replicate (8 - before.length - after.length) 0 ++ after)
      else none
    | _ => none

/-- The address that some text is. -/
def read? (s : String) : Option Address :=
  match readOctets s.toList with
  | some (octets, []) => some (.four octets)
  | _ => (readSix s.toList).map .six

/-! ## Kinds -/

/-- Whether an address is of the fourth version. -/
def isFour : Address → Bool
  | .four _ => true
  | .six _ => false

/-- Whether eight groups hold an address of the fourth version. -/
def holdsFour (groups : List Nat) : Bool := groups.take 6 = [0, 0, 0, 0, 0, 0xFFFF]

/-- Whether eight groups address the neighbours on one link. -/
def isLinkLocal (groups : List Nat) : Bool :=
  let first := groups.headD 0
  0xFE80 ≤ first && first ≤ 0xFEBF

/-- Whether eight groups address many machines at once. -/
def isMulticast (groups : List Nat) : Bool := 0xFF00 ≤ groups.headD 0

/-- Whether eight groups address many machines at once, none of them farther than one link. -/
def isNearMulticast (groups : List Nat) : Bool :=
  isMulticast groups && (groups.headD 0 % 16 = 1 || groups.headD 0 % 16 = 2)

/-! ## Writing -/

/-- Numbers with points between them. -/
def octetChars (octets : List Nat) : List Char :=
  ((octets.map decimal).intersperse ['.']).flatten

/-- Groups with colons between them. -/
def groupChars (groups : List Nat) : List Char :=
  ((groups.map hexadecimal).intersperse [':']).flatten

/-- Where the first of the longest runs of zeros starts, and how long it is. The groups read so far
number `here`, and the last `now` of them are zero. -/
def longestZeros : List Nat → Nat → Nat → Nat × Nat → Nat × Nat
  | [], _, _, best => best
  | g :: rest, here, now, best =>
    if g = 0 then
      let best := if best.2 < now + 1 then (here - now, now + 1) else best
      longestZeros rest (here + 1) (now + 1) best
    else longestZeros rest (here + 1) 0 best

/-- The written form of eight groups. -/
def sixChars (groups : List Nat) : List Char :=
  if holdsFour groups then
    "::ffff:".toList ++
      octetChars ((groups.drop 6).flatMap fun g => [g / 256, g % 256])
  else
    let (start, size) := longestZeros groups 0 0 (0, 0)
    if 1 < size then
      groupChars (groups.take start) ++ [':', ':'] ++ groupChars (groups.drop (start + size))
    else groupChars groups

/-- The written form. -/
def render : Address → String
  | .four octets => String.ofList (octetChars octets)
  | .six groups => String.ofList (sixChars groups)

end Address

end ProxyControl
