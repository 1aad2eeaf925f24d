import ProxyControl.Text.LetterCase

/-!
# Words of small ASCII letters

Text can be made small by the case mapping of the character standard or in its ASCII letters alone,
and the two differ wherever a capital stands outside ASCII. Of these capitals only two become ASCII
letters, the dotted capital and the Kelvin sign. So a word that holds neither `i` nor `k` is reached
in both ways from the same texts.

## Main definitions

* `isPlainSmall`: small letters that come from ASCII letters alone

## Main results

* `lower_eq_iff`: the texts that become a word of plain small letters
-/

set_option autoImplicit false

namespace ProxyControl.Text

/-- Whether a character is a small ASCII letter that no capital outside ASCII becomes. -/
def isPlainSmall (c : Char) : Bool := c.isLower && c != 'i' && c != 'k'

theorem isPlainSmall_of_toNat {c : Char} (h : c.toNat < 97 ∨ 122 < c.toNat) :
    isPlainSmall c = false := by
  have hlower : c.isLower = false := by
    refine Bool.eq_false_iff.2 fun hsmall => ?_
    obtain ⟨hlow, hhigh⟩ := Bool.and_eq_true_iff.1 hsmall
    have hlow' : 97 ≤ c.toNat := of_decide_eq_true hlow
    have hhigh' : c.toNat ≤ 122 := of_decide_eq_true hhigh
    omega
  simp [isPlainSmall, hlower]

/-! ## Characters -/

theorem toNat_ofNat_cases (n : Nat) : (Char.ofNat n).toNat = n ∨ (Char.ofNat n).toNat = 0 := by
  by_cases h : n.isValidChar
  · exact .inl (congrArg Char.toNat (dif_pos h))
  · exact .inr (congrArg Char.toNat (dif_neg h))

/-- A character outside ASCII is no ASCII capital. -/
theorem toLower_of_le {c : Char} (h : 128 ≤ c.toNat) : c.toLower = c := by
  unfold Char.toLower
  rw [dif_neg]
  rintro ⟨-, hz⟩
  have hz' : c.toNat ≤ 90 := hz
  omega

/-- Of the capitals that become one character, only the Kelvin sign becomes an ASCII letter. -/
theorem small_of_mem_capitalRuns :
    ∀ r ∈ capitalRuns, 128 ≤ r.small ∨ r.small = 107 ∧ r.first = r.last := by
  decide +kernel

/-- What a character outside ASCII becomes begins with no plain small letter. -/
theorem lowerChar_of_le {c : Char} (h : 128 ≤ c.toNat) :
    ∃ x more, lowerChar c = x :: more ∧ isPlainSmall x = false := by
  unfold lowerChar
  rw [if_neg (Nat.not_lt.2 h)]
  split
  · exact ⟨'i', _, rfl, by decide⟩
  · split
    · next r hr =>
      refine ⟨_, [], rfl, ?_⟩
      have hholds := List.find?_some hr
      simp only [CapitalRun.holds, Bool.and_eq_true, decide_eq_true_eq] at hholds
      rcases small_of_mem_capitalRuns r (List.mem_of_find?_eq_some hr) with hsmall | ⟨hsmall, heq⟩
      · refine isPlainSmall_of_toNat ?_
        have hcode := toNat_ofNat_cases (r.small + (c.toNat - r.first))
        omega
      · have hfirst : c.toNat - r.first = 0 := by omega
        rw [hsmall, hfirst]
        decide
    · exact ⟨c, [], rfl, isPlainSmall_of_toNat (by omega)⟩

/-! ## Words -/

/-- What begins with a character outside ASCII is made no word of plain small letters. -/
theorem lowerChars_cons_of_le (before rest : List Char) {c : Char} (h : 128 ≤ c.toNat) :
    ∃ x more, lowerChars before (c :: rest) = x :: more ∧ isPlainSmall x = false := by
  rw [lowerChars]
  split
  · split
    · exact ⟨'ς', _, rfl, by decide⟩
    · exact ⟨'σ', _, rfl, by decide⟩
  · obtain ⟨x, more, hx, hplain⟩ := lowerChar_of_le h
    exact ⟨x, _, by rw [hx]; rfl, hplain⟩

theorem lowerChars_eq_iff {w : List Char} (hw : w.all isPlainSmall = true) (before cs : List Char) :
    lowerChars before cs = w ↔ cs.map Char.toLower = w := by
  induction cs generalizing before w with
  | nil => rfl
  | cons c rest ih =>
    by_cases hc : c.toNat < 128
    · have hne : c ≠ 'Σ' := by
        rintro rfl
        exact absurd hc (by decide)
      rw [lowerChars, if_neg hne, lowerChar, if_pos hc, List.map_cons]
      cases w with
      | nil => simp
      | cons x w =>
        simp only [List.all_cons, Bool.and_eq_true] at hw
        simp [ih hw.2]
    -- what is outside ASCII begins no such word, and becomes nothing that does
    · have hle : 128 ≤ c.toNat := Nat.le_of_not_lt hc
      obtain ⟨x, more, hx, hplain⟩ := lowerChars_cons_of_le before rest hle
      have hplain' : isPlainSmall c = false := isPlainSmall_of_toNat (by omega)
      rw [hx, List.map_cons, toLower_of_le hle]
      constructor
      · rintro rfl
        simp [hplain] at hw
      · rintro rfl
        simp [hplain'] at hw

/-- **A word of plain small letters is reached in both ways from the same texts.** -/
theorem lower_eq_iff {w : String} (hw : w.toList.all isPlainSmall = true) (s : String) :
    lower s = w ↔ asciiLower s = w := by
  simp only [lower, asciiLower, ← String.toList_inj, String.toList_ofList]
  exact lowerChars_eq_iff hw [] s.toList

end ProxyControl.Text
