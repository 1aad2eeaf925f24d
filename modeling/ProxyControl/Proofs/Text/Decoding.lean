import ProxyControl.Proofs.Text.ByteLines
import Mathlib.Data.Char
import Mathlib.Tactic.SplitIfs

/-!
# Bytes that may be ill formed, read as text

Where the bytes of a character begin, the character is read. Elsewhere as many bytes as the bytes of
some character begin with are read as one replacement character, and one byte where there is no such
character. This says of any bytes what text they are read as, and it is what the decoder does, which
goes by the table of well-formed byte sequences.

The byte of a line feed is no part of the bytes of another character, so no piece goes on behind a
line feed: bytes can be cut at line feeds before they are read, or afterwards.

## Main definitions

* `IsForm`: the table of well-formed byte sequences
* `IsIllFormed`: pieces that are read as one replacement character
* `IsReadAs`: how bytes are read as text

## Main results

* `isForm_iff`: the table holds the bytes of characters
* `isRead_nextChar`: the decoder reads a character or an ill-formed piece
* `isReadAs_iff`: bytes are read as the text that the decoder gives
* `lossyChars_append_lineFeed`: bytes before and behind a line feed are read each for themselves
-/

set_option autoImplicit false

namespace ProxyControl.Text

/-! ## The bytes of characters -/

/-- Whether bytes are those of one character: the table of well-formed byte sequences. -/
def IsForm : List UInt8 → Prop
  | [b] => b.toNat < 0x80
  | [b, c] => (0xC2 ≤ b.toNat ∧ b.toNat ≤ 0xDF) ∧ isContinuation c = true
  | [b, c, d] =>
    (0xE0 ≤ b.toNat ∧ b.toNat ≤ 0xEF) ∧ isSecondOfThree b c = true ∧ isContinuation d = true
  | [b, c, d, e] =>
    (0xF0 ≤ b.toNat ∧ b.toNat ≤ 0xF4) ∧ isSecondOfFour b c = true ∧ isContinuation d = true ∧
      isContinuation e = true
  | _ => False

theorem isContinuation_iff {b : UInt8} :
    isContinuation b = true ↔ 128 ≤ b.toNat ∧ b.toNat ≤ 191 := by
  simp [isContinuation, UInt8.le_iff_toNat_le]

theorem isSecondOfThree_iff {b c : UInt8} :
    isSecondOfThree b c = true ↔ (128 ≤ c.toNat ∧ c.toNat ≤ 191) ∧
      (b.toNat = 224 → 160 ≤ c.toNat) ∧ (b.toNat = 237 → c.toNat ≤ 159) := by
  have hfirst : b = 0xE0 ↔ b.toNat = 224 := UInt8.toNat_inj.symm
  have hlast : b = 0xED ↔ b.toNat = 237 := UInt8.toNat_inj.symm
  simp only [isSecondOfThree, hfirst, hlast]
  split_ifs <;> simp [UInt8.le_iff_toNat_le, isContinuation_iff] <;> omega

theorem isSecondOfFour_iff {b c : UInt8} :
    isSecondOfFour b c = true ↔ (128 ≤ c.toNat ∧ c.toNat ≤ 191) ∧
      (b.toNat = 240 → 144 ≤ c.toNat) ∧ (b.toNat = 244 → c.toNat ≤ 143) := by
  have hfirst : b = 0xF0 ↔ b.toNat = 240 := UInt8.toNat_inj.symm
  have hlast : b = 0xF4 ↔ b.toNat = 244 := UInt8.toNat_inj.symm
  simp only [isSecondOfFour, hfirst, hlast]
  split_ifs <;> simp [UInt8.le_iff_toNat_le, isContinuation_iff] <;> omega

theorem isForm_utf8EncodeChar (c : Char) : IsForm (String.utf8EncodeChar c) := by
  have hv : c.val.toNat.isValidChar := c.valid
  unfold String.utf8EncodeChar
  generalize c.val.toNat = v at hv
  rw [Nat.isValidChar] at hv
  dsimp only
  split_ifs <;>
    simp only [IsForm, isContinuation_iff, isSecondOfThree_iff, isSecondOfFour_iff,
      UInt8.toNat_ofNat'] <;>
    omega

theorem val_ofNat {n : Nat} (h : n.isValidChar) : (Char.ofNat n).val.toNat = n :=
  congrArg Char.toNat (dif_pos h)

theorem utf8EncodeChar_one {b : UInt8} (h : IsForm [b]) :
    String.utf8EncodeChar (Char.ofNat b.toNat) = [b] := by
  rw [IsForm] at h
  have hv : b.toNat.isValidChar := by rw [Nat.isValidChar]; omega
  rw [String.utf8EncodeChar, val_ofNat hv]
  rw [if_pos (by omega), UInt8.ofNat_toNat]

theorem utf8EncodeChar_two {b c : UInt8} (h : IsForm [b, c]) :
    String.utf8EncodeChar (Char.ofNat (b.toNat % 32 * 64 + payload c)) = [b, c] := by
  simp only [IsForm, isContinuation_iff] at h
  unfold payload
  have hv : (b.toNat % 32 * 64 + c.toNat % 64).isValidChar := by rw [Nat.isValidChar]; omega
  rw [String.utf8EncodeChar, val_ofNat hv]
  rw [if_neg (by omega), if_pos (by omega)]
  simp only [List.cons.injEq, and_true, ← UInt8.toNat_inj, UInt8.toNat_ofNat']
  omega

theorem utf8EncodeChar_three {b c d : UInt8} (h : IsForm [b, c, d]) :
    String.utf8EncodeChar
      (Char.ofNat ((b.toNat % 16 * 64 + payload c) * 64 + payload d)) = [b, c, d] := by
  simp only [IsForm, isContinuation_iff, isSecondOfThree_iff] at h
  unfold payload
  have hv : ((b.toNat % 16 * 64 + c.toNat % 64) * 64 + d.toNat % 64).isValidChar := by
    rw [Nat.isValidChar]; omega
  rw [String.utf8EncodeChar, val_ofNat hv]
  rw [if_neg (by omega), if_neg (by omega), if_pos (by omega)]
  simp only [List.cons.injEq, and_true, ← UInt8.toNat_inj, UInt8.toNat_ofNat']
  omega

theorem utf8EncodeChar_four {b c d e : UInt8} (h : IsForm [b, c, d, e]) :
    String.utf8EncodeChar
      (Char.ofNat (((b.toNat % 8 * 64 + payload c) * 64 + payload d) * 64 + payload e)) =
      [b, c, d, e] := by
  simp only [IsForm, isContinuation_iff, isSecondOfFour_iff] at h
  unfold payload
  have hv : (((b.toNat % 8 * 64 + c.toNat % 64) * 64 + d.toNat % 64) * 64 +
      e.toNat % 64).isValidChar := by
    rw [Nat.isValidChar]; omega
  rw [String.utf8EncodeChar, val_ofNat hv]
  rw [if_neg (by omega), if_neg (by omega), if_neg (by omega)]
  simp only [List.cons.injEq, and_true, ← UInt8.toNat_inj, UInt8.toNat_ofNat']
  omega

/-- The bytes of characters are the forms of the table. -/
theorem isForm_iff {p : List UInt8} : IsForm p ↔ ∃ c, String.utf8EncodeChar c = p := by
  refine ⟨fun h => ?_, fun ⟨c, hc⟩ => hc ▸ isForm_utf8EncodeChar c⟩
  rcases p with _ | ⟨b, _ | ⟨c, _ | ⟨d, _ | ⟨e, _ | ⟨f, more⟩⟩⟩⟩⟩
  · exact h.elim
  · exact ⟨_, utf8EncodeChar_one h⟩
  · exact ⟨_, utf8EncodeChar_two h⟩
  · exact ⟨_, utf8EncodeChar_three h⟩
  · exact ⟨_, utf8EncodeChar_four h⟩
  · exact h.elim

/-- What the bytes of a character are followed by does not hide which character it is. -/
theorem utf8EncodeChar_append_inj {c d : Char} {l m : List UInt8}
    (h : String.utf8EncodeChar c ++ l = String.utf8EncodeChar d ++ m) : c = d ∧ l = m := by
  have hcd : c = d := by
    rcases lt_trichotomy c d with hlt | heq | hlt
    · exact absurd (h ▸ encode_append_lt hlt l m) (List.lt_irrefl _)
    · exact heq
    · exact absurd (h ▸ encode_append_lt hlt m l) (List.lt_irrefl _)
  subst hcd
  exact ⟨rfl, List.append_cancel_left h⟩

/-- The bytes of no character begin with those of another one. -/
theorem IsForm.eq_nil_of_append {p q : List UInt8} (h : IsForm p) (hq : IsForm (p ++ q)) :
    q = [] := by
  obtain ⟨c, rfl⟩ := isForm_iff.1 h
  obtain ⟨d, hd⟩ := isForm_iff.1 hq
  exact (utf8EncodeChar_append_inj ((List.append_nil _).trans hd).symm).2

/-! ## The first character -/

section NextChar

variable {b : UInt8} (rest : List UInt8)

theorem nextChar_one (h : b.toNat < 0x80) : nextChar b rest = (Char.ofNat b.toNat, rest) := by
  have hb : b < 0x80 := UInt8.lt_iff_toNat_lt.2 h
  unfold nextChar
  rw [if_pos hb]

theorem nextChar_two (h : 0xC2 ≤ b.toNat ∧ b.toNat ≤ 0xDF) :
    nextChar b rest = finishOne (b.toNat % 32) rest := by
  simp only [nextChar, UInt8.lt_iff_toNat_lt, UInt8.le_iff_toNat_le, Bool.and_eq_true,
    decide_eq_true_eq, UInt8.reduceToNat]
  rw [if_neg (by omega), if_pos (by omega)]

theorem nextChar_three (h : 0xE0 ≤ b.toNat ∧ b.toNat ≤ 0xEF) :
    nextChar b rest =
      match rest with
      | [] => (replacement, [])
      | c :: rest' =>
        if isSecondOfThree b c then finishOne ((b.toNat % 16) * 64 + payload c) rest'
        else (replacement, c :: rest') := by
  simp only [nextChar, UInt8.lt_iff_toNat_lt, UInt8.le_iff_toNat_le, Bool.and_eq_true,
    decide_eq_true_eq, UInt8.reduceToNat]
  rw [if_neg (by omega), if_neg (by omega), if_pos (by omega)]
  cases rest <;> rfl

theorem nextChar_four (h : 0xF0 ≤ b.toNat ∧ b.toNat ≤ 0xF4) :
    nextChar b rest =
      match rest with
      | [] => (replacement, [])
      | c :: rest' =>
        if isSecondOfFour b c then finishTwo ((b.toNat % 8) * 64 + payload c) rest'
        else (replacement, c :: rest') := by
  simp only [nextChar, UInt8.lt_iff_toNat_lt, UInt8.le_iff_toNat_le, Bool.and_eq_true,
    decide_eq_true_eq, UInt8.reduceToNat]
  rw [if_neg (by omega), if_neg (by omega), if_neg (by omega), if_pos (by omega)]
  cases rest <;> rfl

theorem nextChar_other (h : 0x80 ≤ b.toNat) (htwo : ¬(0xC2 ≤ b.toNat ∧ b.toNat ≤ 0xF4)) :
    nextChar b rest = (replacement, rest) := by
  simp only [nextChar, UInt8.lt_iff_toNat_lt, UInt8.le_iff_toNat_le, Bool.and_eq_true,
    decide_eq_true_eq, UInt8.reduceToNat]
  rw [if_neg (by omega), if_neg (by omega), if_neg (by omega), if_neg (by omega)]

end NextChar

/-- Whether a byte may be the second one of a form that begins with `b`. -/
def isSecond (b c : UInt8) : Bool :=
  if b.toNat ≤ 0xDF then isContinuation c
  else if b.toNat ≤ 0xEF then isSecondOfThree b c
  else isSecondOfFour b c

theorem IsForm.second {b c : UInt8} {more : List UInt8} (h : IsForm (b :: c :: more)) :
    (0xC2 ≤ b.toNat ∧ b.toNat ≤ 0xF4) ∧ isSecond b c = true := by
  unfold isSecond
  rcases more with _ | ⟨d, _ | ⟨e, _ | ⟨f, more⟩⟩⟩
  · obtain ⟨hb, hc⟩ := h
    rw [if_pos (by omega)]
    exact ⟨by omega, hc⟩
  · obtain ⟨hb, hc, -⟩ := h
    rw [if_neg (by omega), if_pos (by omega)]
    exact ⟨by omega, hc⟩
  · obtain ⟨hb, hc, -⟩ := h
    rw [if_neg (by omega), if_neg (by omega)]
    exact ⟨by omega, hc⟩
  · exact h.elim

theorem IsForm.third {b c d : UInt8} {more : List UInt8} (h : IsForm (b :: c :: d :: more)) :
    isContinuation d = true := by
  rcases more with _ | ⟨e, _ | ⟨f, more⟩⟩
  · exact h.2.2
  · exact h.2.2.1
  · exact h.elim

theorem IsForm.fourth {b c d e : UInt8} {more : List UInt8}
    (h : IsForm (b :: c :: d :: e :: more)) : isContinuation e = true := by
  rcases more with _ | ⟨f, more⟩
  · exact h.2.2.2
  · exact h.elim

/-- Whether the bytes of a character begin with some bytes. -/
def IsStart (piece : List UInt8) : Prop := ∃ c, piece <+: String.utf8EncodeChar c

theorem isStart_iff {piece : List UInt8} : IsStart piece ↔ ∃ more, IsForm (piece ++ more) := by
  simp only [isForm_iff]
  exact ⟨fun ⟨c, more, hc⟩ => ⟨more, c, hc.symm⟩, fun ⟨more, c, hc⟩ => ⟨c, more, hc.symm⟩⟩

/-- How ill-formed bytes are cut: into as many as could still have become a character, and at least
one. -/
structure IsIllFormed (piece rest : List UInt8) : Prop where
  ne_nil : piece ≠ []
  /-- They do not begin with the bytes of a character. -/
  no_char : ∀ c, ¬String.utf8EncodeChar c <+: piece ++ rest
  isStart : piece.length = 1 ∨ IsStart piece
  /-- With one byte more they could not have become a character. -/
  maximal : ∀ b more, rest = b :: more → ¬IsStart (piece ++ [b])

/-- How bytes are read as text. -/
inductive IsReadAs : List UInt8 → List Char → Prop
  | nil : IsReadAs [] []
  | char {rest : List UInt8} {cs : List Char} (c : Char) :
    IsReadAs rest cs → IsReadAs (String.utf8EncodeChar c ++ rest) (c :: cs)
  /-- An ill-formed piece is read as one character. -/
  | piece {piece rest : List UInt8} {cs : List Char} :
    IsIllFormed piece rest → IsReadAs rest cs → IsReadAs (piece ++ rest) (replacement :: cs)

/-- Bytes are an ill-formed piece if they are a form that was broken off, or one byte that begins no
form. -/
theorem isIllFormed_of_isForm {piece rest : List UInt8} (hne : piece ≠ []) (hform : ¬IsForm piece)
    (hstart : piece.length = 1 ∨ ∃ more, IsForm (piece ++ more))
    (hmax : ∀ b more more', rest = b :: more → ¬IsForm (piece ++ b :: more')) :
    IsIllFormed piece rest where
  ne_nil := hne
  no_char c hc := by
    have hc' := isForm_utf8EncodeChar c
    rcases List.prefix_or_prefix_of_prefix hc (List.prefix_append piece rest) with
      ⟨more, hpiece⟩ | ⟨more, hchar⟩
    · -- what is there of one form cannot hold another one
      have hmore : more = [] := by
        rcases hstart with hone | ⟨more', hform'⟩
        · rw [← hpiece, List.length_append] at hone
          have hpos := List.length_pos_iff.2 (String.utf8EncodeChar_ne_nil (c := c))
          exact List.length_eq_zero_iff.1 (by omega)
        · rw [← hpiece, List.append_assoc] at hform'
          exact (List.append_eq_nil_iff.1 (hc'.eq_nil_of_append hform')).1
      rw [hmore, List.append_nil] at hpiece
      exact hform (hpiece ▸ hc')
    · rw [← hchar] at hc hc'
      cases more with
      | nil => exact hform (by simpa using hc')
      | cons b more =>
        obtain ⟨more', hrest⟩ := (List.prefix_append_right_inj piece).1 hc
        exact hmax b (more ++ more') more hrest.symm hc'
  isStart := hstart.imp_right isStart_iff.2
  maximal b more hrest hb := by
    obtain ⟨more', hform'⟩ := isStart_iff.1 hb
    rw [List.append_assoc] at hform'
    exact hmax b more more' hrest hform'

/-- Whether a character that was read, with the bytes behind it, is that of bytes: either its own
bytes were read, or an ill-formed piece. -/
def IsRead (bytes : List UInt8) (read : Char × List UInt8) : Prop :=
  bytes = String.utf8EncodeChar read.1 ++ read.2 ∨
    read.1 = replacement ∧ ∃ piece, bytes = piece ++ read.2 ∧ IsIllFormed piece read.2

/-- A form that is broken off after its first byte, or a byte that begins no form. -/
theorem isRead_first {b : UInt8} {rest : List UInt8} (hform : ¬IsForm [b])
    (hmax : ∀ c more more', rest = c :: more → ¬IsForm (b :: c :: more')) :
    IsRead (b :: rest) (replacement, rest) :=
  .inr ⟨rfl, [b], rfl, isIllFormed_of_isForm (List.cons_ne_nil b []) hform (.inl rfl) hmax⟩

/-- A form that is broken off. -/
theorem isRead_brokenOff {p more rest : List UInt8} (hne : p ≠ []) (hmore : more ≠ [])
    (hform : IsForm (p ++ more))
    (hmax : ∀ b more more', rest = b :: more → ¬IsForm (p ++ b :: more')) :
    IsRead (p ++ rest) (replacement, rest) :=
  .inr ⟨rfl, p, rfl, isIllFormed_of_isForm hne (fun h => hmore (h.eq_nil_of_append hform))
    (.inr ⟨more, hform⟩) hmax⟩

theorem isRead_finishOne {p : List UInt8} {lead : Nat} (hne : p ≠ [])
    (hchar : ∀ b, isContinuation b = true →
      String.utf8EncodeChar (Char.ofNat (lead * 64 + payload b)) = p ++ [b])
    (hlast : ∀ b more, IsForm (p ++ b :: more) → isContinuation b = true)
    (rest : List UInt8) : IsRead (p ++ rest) (finishOne lead rest) := by
  have hform : IsForm (p ++ [0x80]) := hchar 0x80 rfl ▸ isForm_utf8EncodeChar _
  cases rest with
  | nil => exact isRead_brokenOff hne (List.cons_ne_nil _ _) hform nofun
  | cons b rest =>
    by_cases hb : isContinuation b = true
    · rw [finishOne, if_pos hb]
      refine .inl ?_
      rw [hchar b hb, List.append_assoc]
      rfl
    · rw [finishOne, if_neg hb]
      refine isRead_brokenOff hne (List.cons_ne_nil _ _) hform fun c more more' hrest h => hb ?_
      obtain ⟨rfl, -⟩ := List.cons.inj hrest
      exact hlast b more' h

theorem isRead_finishTwo {p : List UInt8} {lead : Nat} (hne : p ≠ [])
    (hchar : ∀ b c, isContinuation b = true → isContinuation c = true →
      String.utf8EncodeChar (Char.ofNat ((lead * 64 + payload b) * 64 + payload c)) = p ++ [b, c])
    (hnext : ∀ b more, IsForm (p ++ b :: more) → isContinuation b = true)
    (hlast : ∀ b c more, IsForm (p ++ b :: c :: more) → isContinuation c = true)
    (rest : List UInt8) : IsRead (p ++ rest) (finishTwo lead rest) := by
  have hform : IsForm (p ++ [0x80, 0x80]) := hchar 0x80 0x80 rfl rfl ▸ isForm_utf8EncodeChar _
  cases rest with
  | nil => exact isRead_brokenOff hne (List.cons_ne_nil _ _) hform nofun
  | cons b rest =>
    by_cases hb : isContinuation b = true
    · rw [finishTwo, if_pos hb, ← List.singleton_append, ← List.append_assoc]
      refine isRead_finishOne (by simp) (fun c hc => ?_) (fun c more h => ?_) rest
      · rw [hchar b c hb hc, List.append_assoc]
        rfl
      · rw [List.append_assoc] at h
        exact hlast b c more h
    · rw [finishTwo, if_neg hb]
      refine isRead_brokenOff hne (List.cons_ne_nil _ _) hform fun c more more' hrest h => hb ?_
      obtain ⟨rfl, -⟩ := List.cons.inj hrest
      exact hnext b more' h

/-- Where the second byte does not fit to the first one, the first one is an ill-formed piece. -/
theorem isRead_of_not_isSecond {b c : UInt8} (hb : 0x80 ≤ b.toNat) (hc : isSecond b c ≠ true)
    (rest : List UInt8) : IsRead (b :: c :: rest) (replacement, c :: rest) := by
  refine isRead_first (Nat.not_lt.2 hb) fun c' more more' hrest hform => hc ?_
  obtain ⟨rfl, -⟩ := List.cons.inj hrest
  exact hform.second.2

/-- **The first character of bytes:** the cases are what their first byte can be. -/
theorem isRead_nextChar (b : UInt8) (rest : List UInt8) :
    IsRead (b :: rest) (nextChar b rest) := by
  obtain h | h | h | h | ⟨h, hother⟩ : b.toNat < 0x80 ∨ (0xC2 ≤ b.toNat ∧ b.toNat ≤ 0xDF) ∨
      (0xE0 ≤ b.toNat ∧ b.toNat ≤ 0xEF) ∨ (0xF0 ≤ b.toNat ∧ b.toNat ≤ 0xF4) ∨
      (0x80 ≤ b.toNat ∧ ¬(0xC2 ≤ b.toNat ∧ b.toNat ≤ 0xF4)) := by omega
  · rw [nextChar_one rest h]
    refine .inl ?_
    rw [utf8EncodeChar_one h]
    rfl
  · have hsecond (c : UInt8) : isSecond b c = isContinuation c := if_pos h.2
    rw [nextChar_two rest h]
    exact isRead_finishOne (List.cons_ne_nil b []) (fun c hc => utf8EncodeChar_two ⟨h, hc⟩)
      (fun c more hform => (hsecond c).symm.trans hform.second.2) rest
  · have hfirst : 0x80 ≤ b.toNat := by omega
    have hsecond (c : UInt8) : isSecond b c = isSecondOfThree b c := by
      rw [isSecond, if_neg (by omega), if_pos h.2]
    rw [nextChar_three rest h]
    cases rest with
    | nil => exact isRead_first (Nat.not_lt.2 hfirst) nofun
    | cons c rest =>
      by_cases hc : isSecondOfThree b c = true
      · dsimp only
        rw [if_pos hc]
        exact isRead_finishOne (List.cons_ne_nil b [c])
          (fun d hd => utf8EncodeChar_three ⟨h, hc, hd⟩) (fun d more hform => hform.third) rest
      · dsimp only
        rw [if_neg hc]
        exact isRead_of_not_isSecond hfirst (hsecond c ▸ hc) rest
  · have hfirst : 0x80 ≤ b.toNat := by omega
    have hsecond (c : UInt8) : isSecond b c = isSecondOfFour b c := by
      rw [isSecond, if_neg (by omega), if_neg (by omega)]
    rw [nextChar_four rest h]
    cases rest with
    | nil => exact isRead_first (Nat.not_lt.2 hfirst) nofun
    | cons c rest =>
      by_cases hc : isSecondOfFour b c = true
      · dsimp only
        rw [if_pos hc]
        exact isRead_finishTwo (List.cons_ne_nil b [c])
          (fun d e hd he => utf8EncodeChar_four ⟨h, hc, hd, he⟩) (fun d more hform => hform.third)
          (fun d e more hform => hform.fourth) rest
      · dsimp only
        rw [if_neg hc]
        exact isRead_of_not_isSecond hfirst (hsecond c ▸ hc) rest
  · rw [nextChar_other rest h hother]
    exact isRead_first (Nat.not_lt.2 h) fun c more more' hrest hform => hother hform.second.1

/-! ## All characters -/

/-- An ill-formed piece is not shorter than another one that the same bytes begin with. -/
theorem IsIllFormed.length_le {p p' rest rest' : List UInt8} (h : IsIllFormed p rest)
    (h' : IsIllFormed p' rest') (heq : p ++ rest = p' ++ rest') : p'.length ≤ p.length := by
  by_contra hlt
  rcases List.append_eq_append_iff.1 heq with ⟨more, hp', hrest⟩ | ⟨more, hp, -⟩
  · cases more with
    | nil => exact hlt (by simp [hp'])
    | cons b more =>
      -- the longer piece goes on where the shorter one was said to end
      have hstart : IsStart p' := by
        refine h'.isStart.resolve_left fun hone => ?_
        have hpos := List.length_pos_iff.2 h.ne_nil
        omega
      obtain ⟨c, hc⟩ := hstart
      have hpre : p ++ [b] <+: p' := ⟨more, by rw [hp', List.append_assoc]; rfl⟩
      exact h.maximal b _ hrest ⟨c, hpre.trans hc⟩
  · exact hlt (by simp [hp])

/-- What is read first is told by the bytes. -/
theorem IsRead.eq {bytes : List UInt8} {read read' : Char × List UInt8} (h : IsRead bytes read)
    (h' : IsRead bytes read') : read = read' := by
  rcases h with h | ⟨hc, p, h, hp⟩ <;> rcases h' with h' | ⟨hc', p', h', hp'⟩
  · obtain ⟨hchar, hrest⟩ := utf8EncodeChar_append_inj (h.symm.trans h')
    exact Prod.ext hchar hrest
  · exact absurd ⟨read.2, h.symm.trans h'⟩ (hp'.no_char read.1)
  · exact absurd ⟨read'.2, h'.symm.trans h⟩ (hp.no_char read'.1)
  · have heq := h.symm.trans h'
    have hlength := Nat.le_antisymm (hp'.length_le hp heq.symm) (hp.length_le hp' heq)
    exact Prod.ext (hc.trans hc'.symm) (List.append_inj heq hlength).2

theorem lossyCharsFrom_append (seen seen' : List Char) (bs : List UInt8) :
    lossyCharsFrom (seen ++ seen') bs = seen'.reverse ++ lossyCharsFrom seen bs := by
  fun_induction lossyCharsFrom seen bs with
  | case1 seen => rw [lossyCharsFrom, List.reverse_append]
  | case2 seen b rest ih => rw [lossyCharsFrom, ← ih, List.cons_append]

theorem lossyChars_nil : lossyChars [] = [] := by
  rw [lossyChars, lossyCharsFrom, List.reverse_nil]

theorem lossyChars_cons (b : UInt8) (rest : List UInt8) :
    lossyChars (b :: rest) = (nextChar b rest).1 :: lossyChars (nextChar b rest).2 := by
  rw [lossyChars, lossyCharsFrom]
  exact lossyCharsFrom_append [] [(nextChar b rest).1] _

theorem lossyChars_of_isRead {bytes rest : List UInt8} {c : Char} (hne : bytes ≠ [])
    (h : IsRead bytes (c, rest)) : lossyChars bytes = c :: lossyChars rest := by
  obtain ⟨b, more, rfl⟩ := List.exists_cons_of_ne_nil hne
  rw [lossyChars_cons, (isRead_nextChar b more).eq h]

theorem isReadAs_lossyChars (bytes : List UInt8) : IsReadAs bytes (lossyChars bytes) := by
  induction hn : bytes.length using Nat.strongRecOn generalizing bytes with
  | ind n ih =>
    cases bytes with
    | nil =>
      rw [lossyChars_nil]
      exact .nil
    | cons b rest =>
      have hlt : (nextChar b rest).2.length < n :=
        hn ▸ Nat.lt_succ_of_le (length_nextChar_le b rest)
      have hrest := ih _ hlt _ rfl
      rw [lossyChars_cons]
      rcases isRead_nextChar b rest with hchar | ⟨hchar, p, hpiece, hp⟩
      · rw [hchar]
        exact .char _ hrest
      · rw [hchar, hpiece]
        exact .piece hp hrest

/-- **Bytes are read as the text that the decoder gives,** and as no other one. -/
theorem isReadAs_iff {bytes : List UInt8} {cs : List Char} :
    IsReadAs bytes cs ↔ lossyChars bytes = cs := by
  refine ⟨fun h => ?_, fun h => h ▸ isReadAs_lossyChars bytes⟩
  induction h with
  | nil => exact lossyChars_nil
  | char c _ ih =>
    rw [lossyChars_of_isRead (by simp [String.utf8EncodeChar_ne_nil]) (.inl rfl), ih]
  | piece hp _ ih =>
    exact (lossyChars_of_isRead (by simp [hp.ne_nil]) (.inr ⟨rfl, _, rfl, hp⟩)).trans
      (congrArg _ ih)

/-! ## Line feeds -/

/-- Only a line feed goes on with the byte of a line feed. -/
theorem eq_nil_of_isStart_lineFeed {p more : List UInt8} (h : IsStart (p ++ 10 :: more)) :
    p = [] := by
  obtain ⟨c, hc⟩ := h
  have hmem : 10 ∈ String.utf8EncodeChar c := hc.subset (by simp)
  obtain rfl := lineFeed_mem_utf8EncodeChar_iff.1 hmem
  have hlength := hc.length_le
  have hone : (String.utf8EncodeChar '\n').length = 1 := rfl
  rw [hone, List.length_append, List.length_cons] at hlength
  exact List.length_eq_zero_iff.1 (by omega)

theorem IsIllFormed.append_lineFeed {p rest : List UInt8} (h : IsIllFormed p rest)
    (ys : List UInt8) : IsIllFormed p (rest ++ 10 :: ys) where
  ne_nil := h.ne_nil
  no_char c hc := by
    rw [← List.append_assoc] at hc
    rcases List.prefix_or_prefix_of_prefix hc (List.prefix_append (p ++ rest) _) with
      hc' | ⟨more, hmore⟩
    · exact h.no_char c hc'
    · cases more with
      | nil => exact h.no_char c ⟨[], by simpa using hmore.symm⟩
      | cons b more =>
        rw [← hmore, List.prefix_append_right_inj, List.cons_prefix_cons] at hc
        obtain ⟨rfl, -⟩ := hc
        have hnil := eq_nil_of_isStart_lineFeed ⟨c, [], (List.append_nil _).trans hmore⟩
        exact h.ne_nil (List.append_eq_nil_iff.1 hnil).1
  isStart := h.isStart
  maximal b more hrest := by
    cases rest with
    | nil =>
      obtain ⟨rfl, -⟩ := List.cons.inj hrest
      exact fun hb => h.ne_nil (eq_nil_of_isStart_lineFeed hb)
    | cons b' rest =>
      obtain ⟨rfl, -⟩ := List.cons.inj hrest
      exact h.maximal _ rest rfl

theorem IsReadAs.append_lineFeed {xs ys : List UInt8} {cs ds : List Char} (h : IsReadAs xs cs)
    (hy : IsReadAs ys ds) : IsReadAs (xs ++ 10 :: ys) (cs ++ '\n' :: ds) := by
  induction h with
  | nil => exact .char '\n' hy
  | char c _ ih =>
    rw [List.append_assoc]
    exact .char c ih
  | piece hp _ ih =>
    rw [List.append_assoc]
    exact .piece (hp.append_lineFeed ys) ih

/-- **Bytes before and behind a line feed** are read each for themselves. -/
theorem lossyChars_append_lineFeed (xs ys : List UInt8) :
    lossyChars (xs ++ 10 :: ys) = lossyChars xs ++ '\n' :: lossyChars ys :=
  isReadAs_iff.1 ((isReadAs_lossyChars xs).append_lineFeed (isReadAs_lossyChars ys))

end ProxyControl.Text
