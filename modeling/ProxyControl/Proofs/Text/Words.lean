import ProxyControl.Text.Number
import ProxyControl.Proofs.Text.Pieces

/-!
# Blanks in texts, and the words between them

Trimming leaves a text without blanks as it is, such as the digits of a number. The words of a text
are of this kind, so no reader of a word has anything to trim.

## Main results

* `trimChars_of_not_isBlank`: texts that trimming leaves as they are
* `mem_words`: words are not empty and hold no blanks
-/

set_option autoImplicit false

namespace ProxyControl.Text

/-! ## Ends of texts -/

theorem not_isBlank_of_isDigit {c : Char} (h : c.isDigit = true) : isBlank c = false := by
  have hc : 48 ≤ c.toNat ∧ c.toNat ≤ 57 := by
    simp only [Char.isDigit, Bool.and_eq_true, decide_eq_true_eq] at h
    exact h
  simp only [isBlank, inRanges, blankRanges, List.any_cons, List.any_nil, Bool.or_false,
    Bool.or_eq_false_iff, Bool.and_eq_false_iff, decide_eq_false_iff_not]
  omega

/-- Text without blanks has none at its ends. -/
theorem trimChars_of_not_isBlank {cs : List Char} (h : ∀ c ∈ cs, isBlank c = false) :
    trimChars cs = cs := by
  have hdrop (l : List Char) (hl : ∀ c ∈ l, isBlank c = false) : l.dropWhile isBlank = l := by
    cases l with
    | nil => rfl
    | cons c l => rw [List.dropWhile_cons_of_neg (by simp [hl c])]
  rw [trimChars, hdrop cs h, dropEndWhile, hdrop cs.reverse (by simpa using h),
    List.reverse_reverse]

/-- The digits of a number have no blanks at their ends. -/
theorem trimChars_decimal (n : Nat) : trimChars (decimal n) = decimal n :=
  trimChars_of_not_isBlank fun _ hc => not_isBlank_of_isDigit (isDigit_of_mem_decimal hc)

theorem trim_of_not_isBlank {s : String} (h : ∀ c ∈ s.toList, isBlank c = false) : trim s = s := by
  rw [trim, trimChars_of_not_isBlank h, String.ofList_toList]

/-! ## Words -/

/-- Words are not empty and hold no blanks. -/
theorem mem_words {s word : String} (h : word ∈ words s) :
    word ≠ "" ∧ ∀ c ∈ word.toList, isBlank c = false := by
  obtain ⟨piece, hpiece, rfl⟩ := List.mem_map.1 h
  obtain ⟨hsplit, hne⟩ := List.mem_filter.1 hpiece
  rw [String.toList_ofList]
  refine ⟨fun hempty => of_decide_eq_true hne ?_, eq_false_of_mem_splitWhere hsplit⟩
  simpa using congrArg String.toList hempty

/-- A text of blanks has no words. -/
theorem words_of_isBlankText {s : String} (h : isBlankText s = true) : words s = [] := by
  have hsplit (cs : List Char) (hb : cs.all isBlank = true) :
      (splitWhereFrom isBlank [] cs).filter (· ≠ []) = [] := by
    induction cs with
    | nil => rfl
    | cons c cs ih =>
      obtain ⟨hc, hcs⟩ := Bool.and_eq_true_iff.1 (List.all_cons.symm.trans hb)
      rw [splitWhereFrom, if_pos hc]
      exact ih hcs
  rw [words, splitWhere, hsplit _ h]
  rfl

end ProxyControl.Text
