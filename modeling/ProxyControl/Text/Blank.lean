import ProxyControl.Text.Pieces

/-!
# Blank characters

Blank characters are those with the white space property of the character standard. Text is
trimmed, split into words and told apart from empty text by this property, never by the narrower
set of the ASCII blanks.

## Main definitions

* `isBlank`: the white space property
* `trim`: text without the blanks at its ends
* `isBlankText`: text that holds blanks only
* `words`: the non-empty pieces between blanks
-/

set_option autoImplicit false

namespace ProxyControl.Text

/-- The code points with the white space property, as closed ranges in ascending order. -/
def blankRanges : List (Nat × Nat) :=
  [(0x09, 0x0D), (0x20, 0x20), (0x85, 0x85), (0xA0, 0xA0), (0x1680, 0x1680), (0x2000, 0x200A),
    (0x2028, 0x2029), (0x202F, 0x202F), (0x205F, 0x205F), (0x3000, 0x3000)]

/-- Whether the code point of `c` lies in one of the closed ranges. -/
def inRanges (ranges : List (Nat × Nat)) (c : Char) : Bool :=
  ranges.any fun r => decide (r.1 ≤ c.toNat) && decide (c.toNat ≤ r.2)

/-- Whether `c` has the white space property. -/
def isBlank (c : Char) : Bool := inRanges blankRanges c

/-- Characters without the blanks at their two ends. -/
def trimChars (cs : List Char) : List Char := dropEndWhile isBlank (cs.dropWhile isBlank)

/-- Text without the blanks at its two ends. -/
def trim (s : String) : String := String.ofList (trimChars s.toList)

/-- Whether text holds nothing but blanks. -/
def isBlankText (s : String) : Bool := s.toList.all isBlank

/-- The non-empty pieces between blanks. -/
def words (s : String) : List String :=
  ((splitWhere isBlank s.toList).filter (· ≠ [])).map String.ofList

/-- Text with the ASCII capitals made small; all other characters stay. -/
def asciiLower (s : String) : String := String.ofList (s.toList.map Char.toLower)

example : trim "\u2003 a b\t" = "a b" := by decide
example : words " mode  global\n" = ["mode", "global"] := by decide
example : asciiLower "GLOBAL É" = "global É" := by decide

end ProxyControl.Text
