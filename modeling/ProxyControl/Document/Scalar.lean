import ProxyControl.Document.Value

/-!
# Scalars of documents

Text stands between double quotes, where the backslash starts an escape, or between single quotes,
where every character is itself; three quotes open and close text that may run over lines. Whole
numbers are decimal, or in a base that a letter after a zero names, and fit in 64 bits with a sign.
Underscores separate digits. A number with a point or an exponent is a float, and so are the words
for infinity and for no number at all.

## Main definitions

* `readText`: text in any of the four notations
* `readQuoted`: text on one line, as it also stands in keys
* `readNumber`: a number, a date or a time
-/

set_option autoImplicit false

namespace ProxyControl.Document

open Text

/-- Blanks inside a line. -/
def isSpace (c : Char) : Bool := c = ' ' || c = '\t'

/-- A character that may stand in a comment: a tab, or one that is no control character. -/
def isVisible (c : Char) : Bool :=
  c = '\t' || (decide (0x20 ≤ c.toNat) && c.toNat ≠ 0x7F)

/-- The text after the blanks inside a line. -/
def skipSpaces (cs : List Char) : List Char := cs.dropWhile isSpace

/-- One line end. -/
def readLineEnd : Reader Unit
  | '\n' :: rest => some ((), rest)
  | '\r' :: '\n' :: rest => some ((), rest)
  | _ => none

/-- The text after blanks and line ends. -/
def skipBlanks : List Char → List Char
  | '\n' :: rest => skipBlanks rest
  | '\r' :: '\n' :: rest => skipBlanks rest
  | ' ' :: rest => skipBlanks rest
  | '\t' :: rest => skipBlanks rest
  | cs => cs

theorem length_skipBlanks_le (cs : List Char) : (skipBlanks cs).length ≤ cs.length := by
  fun_induction skipBlanks cs <;> grind

/-! ## Text -/

/-- The character of a code point of `n` hexadecimal digits. -/
def readCodePoint (n : Nat) : Reader Char := fun cs =>
  let digits := cs.take n
  let code := valueInBase 16 digits
  if digits.length = n ∧ digits.all isHexadecimal = true ∧ code.isValidChar then
    some (Char.ofNat code, cs.drop n)
  else none

/-- The character that stands after a backslash. -/
def readEscape : Reader Char
  | 'b' :: rest => some ('\x08', rest)
  | 't' :: rest => some ('\t', rest)
  | 'n' :: rest => some ('\n', rest)
  | 'f' :: rest => some ('\x0c', rest)
  | 'r' :: rest => some ('\r', rest)
  | '"' :: rest => some ('"', rest)
  | '\\' :: rest => some ('\\', rest)
  | 'u' :: rest => readCodePoint 4 rest
  | 'U' :: rest => readCodePoint 8 rest
  | _ => none

/-- The text after a backslash at the end of a line, and after all blanks that follow. -/
def readJoin : Reader Unit := fun cs =>
  (readLineEnd (skipSpaces cs)).map fun r => ((), skipBlanks r.2)

theorem length_le_of_readCodePoint {n : Nat} {cs rest : List Char} {c : Char}
    (h : readCodePoint n cs = some (c, rest)) : rest.length ≤ cs.length := by
  unfold readCodePoint at h
  grind

theorem length_lt_of_readEscape {cs rest : List Char} {c : Char}
    (h : readEscape cs = some (c, rest)) : rest.length < cs.length := by
  unfold readEscape at h
  split at h
  case h_8 => exact Nat.lt_succ_of_le (length_le_of_readCodePoint h)
  case h_9 => exact Nat.lt_succ_of_le (length_le_of_readCodePoint h)
  all_goals grind

theorem length_lt_of_readLineEnd {cs rest : List Char}
    (h : readLineEnd cs = some ((), rest)) : rest.length < cs.length := by
  unfold readLineEnd at h
  split at h <;> grind

theorem length_lt_of_readJoin {cs rest : List Char}
    (h : readJoin cs = some ((), rest)) : rest.length < cs.length := by
  unfold readJoin at h
  obtain ⟨⟨u, r⟩, hr, heq⟩ := Option.map_eq_some_iff.1 h
  have hlt := length_lt_of_readLineEnd hr
  have hsp : (skipSpaces cs).length ≤ cs.length := (List.dropWhile_sublist _).length_le
  have hbl := length_skipBlanks_le r
  have : skipBlanks r = rest := congrArg Prod.snd heq
  grind

/-- Text up to a double quote on the same line, after the characters already read. -/
def readBasicFrom (seen : List Char) : Reader (List Char)
  | [] => none
  | c :: rest =>
    if c = '"' then some (seen.reverse, rest)
    else if c = '\\' then
      match _h : readEscape rest with
      | some (d, rest') => readBasicFrom (d :: seen) rest'
      | none => none
    else if isVisible c then readBasicFrom (c :: seen) rest
    else none
termination_by cs => cs.length
decreasing_by
  · exact Nat.lt_succ_of_lt (length_lt_of_readEscape _h)
  · exact Nat.lt_succ_self _

/-- Text up to a single quote on the same line, after the characters already read. -/
def readLiteralFrom (seen : List Char) : Reader (List Char)
  | [] => none
  | c :: rest =>
    if c = '\'' then some (seen.reverse, rest)
    else if isVisible c then readLiteralFrom (c :: seen) rest
    else none

/-- Text up to three double quotes, after the characters already read. Up to two more quotes
before the closing ones belong to the text. -/
def readLongBasicFrom (seen : List Char) : Reader (List Char)
  | '"' :: '"' :: '"' :: '"' :: '"' :: rest => some (('"' :: '"' :: seen).reverse, rest)
  | '"' :: '"' :: '"' :: '"' :: rest => some (('"' :: seen).reverse, rest)
  | '"' :: '"' :: '"' :: rest => some (seen.reverse, rest)
  | '\n' :: rest => readLongBasicFrom ('\n' :: seen) rest
  | '\r' :: '\n' :: rest => readLongBasicFrom ('\n' :: seen) rest
  | '\\' :: rest =>
    match _hj : readJoin rest with
    | some ((), rest') => readLongBasicFrom seen rest'
    | none =>
      match _he : readEscape rest with
      | some (d, rest') => readLongBasicFrom (d :: seen) rest'
      | none => none
  | c :: rest => if isVisible c then readLongBasicFrom (c :: seen) rest else none
  | [] => none
termination_by cs => cs.length
decreasing_by
  · exact Nat.lt_succ_self _
  · exact Nat.lt_succ_of_lt (Nat.lt_succ_self _)
  · exact Nat.lt_succ_of_lt (length_lt_of_readJoin _hj)
  · exact Nat.lt_succ_of_lt (length_lt_of_readEscape _he)
  · exact Nat.lt_succ_self _

/-- Text up to three single quotes, after the characters already read. Up to two more quotes
before the closing ones belong to the text. -/
def readLongLiteralFrom (seen : List Char) : Reader (List Char)
  | '\'' :: '\'' :: '\'' :: '\'' :: '\'' :: rest => some (('\'' :: '\'' :: seen).reverse, rest)
  | '\'' :: '\'' :: '\'' :: '\'' :: rest => some (('\'' :: seen).reverse, rest)
  | '\'' :: '\'' :: '\'' :: rest => some (seen.reverse, rest)
  | '\n' :: rest => readLongLiteralFrom ('\n' :: seen) rest
  | '\r' :: '\n' :: rest => readLongLiteralFrom ('\n' :: seen) rest
  | c :: rest => if isVisible c then readLongLiteralFrom (c :: seen) rest else none
  | [] => none

/-- The text after a line end at the very start. -/
def dropLineEnd (cs : List Char) : List Char :=
  match readLineEnd cs with
  | some ((), rest) => rest
  | none => cs

/-- Text on one line, between quotes of either kind. -/
def readQuoted : Reader String
  | '"' :: rest => (readBasicFrom [] rest).map fun r => (String.ofList r.1, r.2)
  | '\'' :: rest => (readLiteralFrom [] rest).map fun r => (String.ofList r.1, r.2)
  | _ => none

/-- Text in any notation. -/
def readText : Reader String
  | '"' :: '"' :: '"' :: rest =>
    (readLongBasicFrom [] (dropLineEnd rest)).map fun r => (String.ofList r.1, r.2)
  | '\'' :: '\'' :: '\'' :: rest =>
    (readLongLiteralFrom [] (dropLineEnd rest)).map fun r => (String.ofList r.1, r.2)
  | cs => readQuoted cs

/-! ## Numbers -/

/-- Digits of a class with single underscores between them, after those already read. -/
def readDigitsFrom (isDigit : Char → Bool) (seen : List Char) : Reader (List Char)
  | '_' :: c :: rest =>
    if isDigit c then readDigitsFrom isDigit (c :: seen) rest else none
  | c :: rest =>
    if c = '_' then none
    else if isDigit c then readDigitsFrom isDigit (c :: seen) rest
    else some (seen.reverse, c :: rest)
  | [] => some (seen.reverse, [])

/-- At least one digit of a class, with single underscores between digits. -/
def readDigits (isDigit : Char → Bool) : Reader (List Char)
  | c :: rest => if isDigit c then readDigitsFrom isDigit [c] rest else none
  | [] => none

/-- A sign, if there is one: whether it is a minus. -/
def readSign : List Char → Bool × List Char
  | '+' :: rest => (false, rest)
  | '-' :: rest => (true, rest)
  | cs => (false, cs)

/-- Decimal digits without leading zeros. -/
def readWhole : Reader (List Char)
  | '0' :: rest => some (['0'], rest)
  | cs => readDigits isDecimal cs

/-- An exponent, or zero where none starts. -/
def readExponent : Reader Int
  | c :: rest =>
    if c = 'e' ∨ c = 'E' then
      let (negative, rest) := readSign rest
      (readDigits isDecimal rest).map fun r =>
        let n : Int := valueInBase 10 r.1
        (if negative then -n else n, r.2)
    else some (0, c :: rest)
  | [] => some (0, [])

/-- The digits of a fraction, or none where no point starts it. -/
def readFraction : Reader (List Char)
  | '.' :: rest => readDigits isDecimal rest
  | cs => some ([], cs)

/-- Whether a whole number fits in 64 bits with a sign. -/
def isInteger (n : Int) : Bool := -9223372036854775808 ≤ n && n ≤ 9223372036854775807

/-- Whether the digits before make up the whole part of a float. -/
def continuesFloat : List Char → Bool
  | c :: _ => c = '.' || c = 'e' || c = 'E'
  | [] => false

/-- A float or a whole number after its sign. A float that is too large above is refused; one that
is too large below is an infinity. -/
def readDecimal (negative : Bool) : Reader Value := fun cs => do
  let (whole, rest) ← readWhole cs
  if continuesFloat rest then
    let (places, rest) ← readFraction rest
    let (exponent, rest) ← readExponent rest
    let digits := valueInBase 10 (whole ++ places)
    let x := Binary64.ofDecimal negative digits (exponent - places.length)
    if x = Binary64.infinity false then none else some (.float x, rest)
  else
    let n : Int := valueInBase 10 whole
    let n := if negative then -n else n
    if isInteger n then some (.integer n, rest) else none

/-- Digits of a base after its letter. -/
def readBased (base : Nat) (isDigit : Char → Bool) : Reader Value := fun cs => do
  let (digits, rest) ← readDigits isDigit cs
  let n : Int := valueInBase base digits
  if isInteger n then some (.integer n, rest) else none

/-- An infinity, no number at all, or a decimal, after its sign. -/
def readSigned (negative : Bool) : Reader Value
  | 'i' :: 'n' :: 'f' :: rest => some (.float (Binary64.infinity negative), rest)
  | 'n' :: 'a' :: 'n' :: rest => some (.float (Binary64.nan negative), rest)
  | cs => readDecimal negative cs

/-- A number, a date or a time. -/
def readNumber : Reader Value := fun cs =>
  if startsDate cs || startsClock cs then
    (Datetime.read? cs).map fun r => (.datetime r.1, r.2)
  else match cs with
    | '0' :: 'x' :: rest => readBased 16 isHexadecimal rest
    | '0' :: 'o' :: rest => readBased 8 (fun c => '0' ≤ c && c ≤ '7') rest
    | '0' :: 'b' :: rest => readBased 2 (fun c => c = '0' || c = '1') rest
    | cs => readSigned (readSign cs).1 (readSign cs).2

end ProxyControl.Document
