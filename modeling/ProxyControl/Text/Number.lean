import ProxyControl.Text.Blank

/-!
# Numbers in text

Whole numbers are written in decimal without a sign or leading zeros, and read back from any run of
decimal digits, with an optional sign before it. A reader that has a largest value refuses all
larger ones instead of wrapping around.

## Main definitions

* `decimal`, `hexadecimal`: the digits of a number
* `readNat?`: a run of decimal digits
* `readUnsigned?`: decimal digits with an optional plus sign, up to a largest value
* `readInt?`: decimal digits with an optional sign

## Main results

* `readNat?_decimal`, `readUnsigned?_decimal`: a written number reads back
-/

set_option autoImplicit false

namespace ProxyControl.Text

/-- The decimal digits of `n`. -/
def decimal (n : Nat) : List Char := Nat.toDigits 10 n

/-- The hexadecimal digits of `n`, in small letters. -/
def hexadecimal (n : Nat) : List Char := Nat.toDigits 16 n

/-- `cs` with as many copies of `c` before it as bring it to the length `width`. -/
def padStart (width : Nat) (c : Char) (cs : List Char) : List Char :=
  List.replicate (width - cs.length) c ++ cs

/-- `cs` with as many copies of `c` after it as bring it to the length `width`. -/
def padEnd (width : Nat) (c : Char) (cs : List Char) : List Char :=
  cs ++ List.replicate (width - cs.length) c

/-- Whether `c` is a decimal digit. -/
def isDecimal (c : Char) : Bool := '0' ≤ c && c ≤ '9'

/-- Whether `c` is a hexadecimal digit. -/
def isHexadecimal (c : Char) : Bool :=
  isDecimal c || ('a' ≤ c && c ≤ 'f') || ('A' ≤ c && c ≤ 'F')

/-- The value of a digit in a base up to sixteen. -/
def digitValue (c : Char) : Nat :=
  if isDecimal c then c.toNat - 48
  else if 'a' ≤ c && c ≤ 'f' then c.toNat - 87
  else if 'A' ≤ c && c ≤ 'F' then c.toNat - 55
  else 0

/-- The value of digits in a base up to sixteen. -/
def valueInBase (base : Nat) (cs : List Char) : Nat :=
  cs.foldl (fun n c => base * n + digitValue c) 0

/-- The number that a non-empty run of decimal digits writes. -/
def readNat? (cs : List Char) : Option Nat :=
  if cs ≠ [] ∧ cs.all Char.isDigit = true then some (Nat.ofDigitChars 10 cs 0) else none

/-- The number up to `largest` that decimal digits write, after an optional plus sign. -/
def readUnsigned? (largest : Nat) : List Char → Option Nat
  | '+' :: cs => (readNat? cs).filter (· ≤ largest)
  | cs => (readNat? cs).filter (· ≤ largest)

/-- The whole number that decimal digits write, after an optional sign. -/
def readInt? : List Char → Option Int
  | '+' :: cs => (readNat? cs).map Int.ofNat
  | '-' :: cs => (readNat? cs).map fun n => -Int.ofNat n
  | cs => (readNat? cs).map Int.ofNat

theorem decimal_ne_nil (n : Nat) : decimal n ≠ [] := Nat.toDigits_ne_nil

theorem isDigit_of_mem_decimal {n : Nat} {c : Char} (h : c ∈ decimal n) : c.isDigit = true :=
  Nat.isDigit_of_mem_toDigits (b := 10) (by decide) (by decide) h

/-- A written number reads back. -/
theorem readNat?_decimal (n : Nat) : readNat? (decimal n) = some n := by
  rw [readNat?, if_pos ⟨decimal_ne_nil n,
    List.all_eq_true.2 fun _ => isDigit_of_mem_decimal⟩, decimal, Nat.ofDigitChars_ten_toDigits]

/-- A written number reads back where it is not too large. -/
theorem readUnsigned?_decimal {n largest : Nat} (h : n ≤ largest) :
    readUnsigned? largest (decimal n) = some n := by
  have hplus : ∀ cs, decimal n ≠ '+' :: cs := fun cs hcs =>
    absurd (isDigit_of_mem_decimal (n := n) (c := '+') (by simp [hcs])) (by decide)
  unfold readUnsigned?
  split
  · next cs hcs => exact absurd hcs (hplus cs)
  · simp [readNat?_decimal, h]

end ProxyControl.Text
