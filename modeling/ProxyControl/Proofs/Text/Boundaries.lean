import ProxyControl.Text.Utf8
import Mathlib.Data.String.Basic

/-!
# Texts that are cut between characters

A place in a text is between characters, or at an end, where the text can be cut in two texts. The
start is such a place, so the search towards the front ends, and it ends at the last one that is not
behind where it began. A character takes at most four bytes, so that one is fewer than four bytes
away.

## Main definitions

* `IsLongestWithin`: the longest beginning of a text within a number of bytes

## Main results

* `isValid_boundaryUpTo`, `le_boundaryUpTo`: the search finds the last place between characters
* `lt_boundaryUpTo_add_four`: it does not go far
* `isLongestWithin_takeUtf8`: the text that is cut off there is the longest one within the limit
-/

set_option autoImplicit false

namespace ProxyControl.Text

/-! ## Places between characters -/

/-- A place is between characters, or at an end, where a text can be cut in two texts. -/
theorem isValid_iff {s : String} {n : Nat} :
    String.Pos.Raw.isValid s ⟨n⟩ = true ↔ ∃ cut rest, s = cut ++ rest ∧ cut.utf8ByteSize = n := by
  rw [String.Pos.Raw.isValid_eq_true_iff, String.Pos.Raw.isValid_iff_exists_append]
  simp only [String.Pos.Raw.ext_iff]
  exact ⟨fun ⟨cut, rest, hs, hn⟩ => ⟨cut, rest, hs, hn.symm⟩,
    fun ⟨cut, rest, hs, hn⟩ => ⟨cut, rest, hs, hn.symm⟩⟩

theorem extract_append (cut rest : String) :
    String.Pos.Raw.extract (cut ++ rest) 0 ⟨cut.utf8ByteSize⟩ = cut := by
  have h := String.extract_of_valid [] cut.toList rest.toList
  simpa using h

theorem boundaryUpTo_le (s : String) (n : Nat) : boundaryUpTo s n ≤ n := by
  induction n with
  | zero => exact Nat.le_refl 0
  | succ n ih =>
    rw [boundaryUpTo]
    split
    · exact Nat.le_refl _
    · exact Nat.le_succ_of_le ih

/-- The search ends between characters. -/
theorem isValid_boundaryUpTo (s : String) (n : Nat) :
    String.Pos.Raw.isValid s ⟨boundaryUpTo s n⟩ = true := by
  induction n with
  | zero => exact isValid_iff.2 ⟨"", s, String.empty_append.symm, rfl⟩
  | succ n ih =>
    rw [boundaryUpTo]
    split
    · next h => exact h
    · exact ih

/-- The search passes no place between characters. -/
theorem le_boundaryUpTo {s : String} {n m : Nat} (hm : String.Pos.Raw.isValid s ⟨m⟩ = true)
    (hle : m ≤ n) : m ≤ boundaryUpTo s n := by
  induction n with
  | zero => exact hle
  | succ n ih =>
    rw [boundaryUpTo]
    split
    · exact hle
    · next h =>
      refine ih (Nat.le_of_lt_succ (Nat.lt_of_le_of_ne hle ?_))
      rintro rfl
      exact h hm

/-- **The search does not go far:** the next character would not fit, and takes at most four
bytes. -/
theorem lt_boundaryUpTo_add_four {s : String} {n : Nat} (h : n ≤ s.utf8ByteSize) :
    n < boundaryUpTo s n + 4 := by
  obtain ⟨cut, rest, hs, hcut⟩ := isValid_iff.1 (isValid_boundaryUpTo s n)
  cases hrest : rest.toList with
  | nil =>
    have hempty : rest = "" := String.toList_eq_nil_iff.1 hrest
    rw [hs, hempty, String.append_empty, hcut] at h
    omega
  | cons c cs =>
    have hnext : String.Pos.Raw.isValid s ⟨boundaryUpTo s n + c.utf8Size⟩ = true := by
      refine isValid_iff.2 ⟨cut.push c, String.ofList cs, ?_, ?_⟩
      · rw [hs, ← String.toList_inj]
        simp [hrest]
      · rw [String.utf8ByteSize_push, hcut]
    have hfour := c.utf8Size_le_four
    have hpos := c.utf8Size_pos
    by_contra hlt
    have hle := le_boundaryUpTo hnext (n := n) (by omega)
    omega

/-! ## The beginning of a text -/

/-- Whether a text is the longest beginning of another one that takes at most `limit` bytes. -/
structure IsLongestWithin (limit : Nat) (whole cut : String) : Prop where
  /-- It is made of the first characters. -/
  isBeginning : ∃ rest, whole = cut ++ rest
  le : cut.utf8ByteSize ≤ limit
  longest : ∀ longer rest, whole = longer ++ rest → longer.utf8ByteSize ≤ limit →
    longer.utf8ByteSize ≤ cut.utf8ByteSize

/-- There is one longest beginning. -/
theorem IsLongestWithin.eq {limit : Nat} {whole cut cut' : String}
    (h : IsLongestWithin limit whole cut) (h' : IsLongestWithin limit whole cut') : cut = cut' := by
  obtain ⟨rest, hrest⟩ := h.isBeginning
  obtain ⟨rest', hrest'⟩ := h'.isBeginning
  have hsize := Nat.le_antisymm (h'.longest cut rest hrest h.le) (h.longest cut' rest' hrest' h'.le)
  rw [← extract_append cut rest, ← extract_append cut' rest', ← hrest, ← hrest', hsize]

theorem takeUtf8_of_le {limit : Nat} {s : String} (h : s.utf8ByteSize ≤ limit) :
    takeUtf8 limit s = s := if_pos h

/-- What is cut off ends where the search ends. -/
theorem takeUtf8_of_lt {limit : Nat} {s : String} (h : limit < s.utf8ByteSize) :
    (∃ rest, s = takeUtf8 limit s ++ rest) ∧
      (takeUtf8 limit s).utf8ByteSize = boundaryUpTo s limit := by
  obtain ⟨cut, rest, hs, hcut⟩ := isValid_iff.1 (isValid_boundaryUpTo s limit)
  have htake : takeUtf8 limit s = cut := by
    rw [takeUtf8, if_neg (Nat.not_le.2 h), ← hcut]
    conv_lhs => rw [hs]
    exact extract_append cut rest
  rw [htake]
  exact ⟨⟨rest, hs⟩, hcut⟩

/-- **The text that is kept** is the longest beginning within the limit. -/
theorem isLongestWithin_takeUtf8 (limit : Nat) (s : String) :
    IsLongestWithin limit s (takeUtf8 limit s) := by
  rcases Nat.lt_or_ge limit s.utf8ByteSize with h | h
  · obtain ⟨hbeginning, hsize⟩ := takeUtf8_of_lt h
    refine ⟨hbeginning, hsize ▸ boundaryUpTo_le s limit, fun longer rest hs hle => ?_⟩
    rw [hsize]
    exact le_boundaryUpTo (isValid_iff.2 ⟨longer, rest, hs, rfl⟩) hle
  · rw [takeUtf8_of_le h]
    refine ⟨⟨"", String.append_empty.symm⟩, h, fun longer rest hs _ => ?_⟩
    rw [hs, String.utf8ByteSize_append]
    exact Nat.le_add_right _ _

end ProxyControl.Text
