import ProxyControl.Text.Blank

/-!
# Text from bytes

Bytes that are well-formed UTF-8 are the text they encode. In other bytes each ill-formed piece,
taken as long as it could still have become a character, is read as one replacement character.

## Main definitions

* `nextChar`: the first character of a byte sequence, and the bytes after it
* `lossyChars`: every character of a byte sequence
* `decodeLossy`: the text of a byte sequence
* `boundaryUpTo`: the last place between characters up to a number of bytes
* `takeUtf8`: the longest prefix of whole characters within a number of bytes
-/

set_option autoImplicit false

namespace ProxyControl.Text

/-- The character that stands for an ill-formed piece. -/
def replacement : Char := '\uFFFD'

/-- Whether a byte continues a character. -/
def isContinuation (b : UInt8) : Bool := 0x80 ≤ b && b ≤ 0xBF

/-- Whether `c` may follow the first byte `b` of a character of three bytes: over-long forms and
surrogates are excluded. -/
def isSecondOfThree (b c : UInt8) : Bool :=
  if b = 0xE0 then 0xA0 ≤ c && c ≤ 0xBF
  else if b = 0xED then 0x80 ≤ c && c ≤ 0x9F
  else isContinuation c

/-- Whether `c` may follow the first byte `b` of a character of four bytes: over-long forms and
code points past the last one are excluded. -/
def isSecondOfFour (b c : UInt8) : Bool :=
  if b = 0xF0 then 0x90 ≤ c && c ≤ 0xBF
  else if b = 0xF4 then 0x80 ≤ c && c ≤ 0x8F
  else isContinuation c

/-- The six bits that a continuation byte carries. -/
def payload (b : UInt8) : Nat := b.toNat % 64

/-- A character whose earlier bytes carry `lead` and which one continuation byte ends. -/
def finishOne (lead : Nat) : List UInt8 → Char × List UInt8
  | [] => (replacement, [])
  | c :: rest =>
    if isContinuation c then (Char.ofNat (lead * 64 + payload c), rest)
    else (replacement, c :: rest)

/-- A character whose earlier bytes carry `lead` and which two continuation bytes end. -/
def finishTwo (lead : Nat) : List UInt8 → Char × List UInt8
  | [] => (replacement, [])
  | c :: rest =>
    if isContinuation c then finishOne (lead * 64 + payload c) rest else (replacement, c :: rest)

/-- The character that starts with the byte `b`, and the bytes after it. -/
def nextChar (b : UInt8) (rest : List UInt8) : Char × List UInt8 :=
  if b < 0x80 then (Char.ofNat b.toNat, rest)
  else if 0xC2 ≤ b && b ≤ 0xDF then finishOne (b.toNat % 32) rest
  else if 0xE0 ≤ b && b ≤ 0xEF then
    match rest with
    | [] => (replacement, [])
    | c :: rest' =>
      if isSecondOfThree b c then finishOne ((b.toNat % 16) * 64 + payload c) rest'
      else (replacement, rest)
  else if 0xF0 ≤ b && b ≤ 0xF4 then
    match rest with
    | [] => (replacement, [])
    | c :: rest' =>
      if isSecondOfFour b c then finishTwo ((b.toNat % 8) * 64 + payload c) rest'
      else (replacement, rest)
  else (replacement, rest)

theorem length_finishOne_le (lead : Nat) (bs : List UInt8) :
    (finishOne lead bs).2.length ≤ bs.length := by
  cases bs with
  | nil => simp [finishOne]
  | cons c rest => by_cases h : isContinuation c <;> simp [finishOne, h]

theorem length_finishTwo_le (lead : Nat) (bs : List UInt8) :
    (finishTwo lead bs).2.length ≤ bs.length := by
  cases bs with
  | nil => simp [finishTwo]
  | cons c rest =>
    by_cases h : isContinuation c
    · simp only [finishTwo, h, if_true, List.length_cons]
      exact Nat.le_succ_of_le (length_finishOne_le _ rest)
    · simp [finishTwo, h]

/-- Reading a character never gives bytes back. -/
theorem length_nextChar_le (b : UInt8) (rest : List UInt8) :
    (nextChar b rest).2.length ≤ rest.length := by
  unfold nextChar
  split
  · exact Nat.le_refl _
  · split
    · exact length_finishOne_le _ _
    · split
      · cases rest with
        | nil => simp
        | cons c rest' =>
          dsimp only
          split
          · exact Nat.le_succ_of_le (length_finishOne_le _ rest')
          · exact Nat.le_refl _
      · split
        · cases rest with
          | nil => simp
          | cons c rest' =>
            dsimp only
            split
            · exact Nat.le_succ_of_le (length_finishTwo_le _ rest')
            · exact Nat.le_refl _
        · exact Nat.le_refl _

/-- The characters of a byte sequence after those already read, which are held in reverse. -/
def lossyCharsFrom (seen : List Char) : List UInt8 → List Char
  | [] => seen.reverse
  | b :: rest => lossyCharsFrom ((nextChar b rest).1 :: seen) (nextChar b rest).2
termination_by bs => bs.length
decreasing_by exact Nat.lt_succ_of_le (length_nextChar_le b rest)

/-- The characters of a byte sequence, a replacement character for each ill-formed piece. -/
def lossyChars (bs : List UInt8) : List Char := lossyCharsFrom [] bs

/-- The text of a byte sequence: itself where it is well formed. -/
def decodeLossy (bytes : ByteArray) : String :=
  match String.fromUTF8? bytes with
  | some s => s
  | none => String.ofList (lossyChars bytes.toList)

/-- The last place between characters, or at an end, that is not behind a number of bytes. It is
looked for from there towards the front. -/
def boundaryUpTo (s : String) : Nat → Nat
  | 0 => 0
  | n + 1 => if String.Pos.Raw.isValid s ⟨n + 1⟩ then n + 1 else boundaryUpTo s n

/-- The longest prefix of whole characters that takes at most `limit` bytes. -/
def takeUtf8 (limit : Nat) (s : String) : String :=
  if s.utf8ByteSize ≤ limit then s else String.Pos.Raw.extract s 0 ⟨boundaryUpTo s limit⟩

end ProxyControl.Text
