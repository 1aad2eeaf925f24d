import ProxyControl.Log.Buffer
import Mathlib.Data.List.DropRight

/-!
# The window of the display

The display is a window on the lines that were offered since it was cleared and that count: notices,
and records whose text is not blank. It holds the latest of them, as many as were asked for and at
least one. Offering a line and clearing the display are stated as equations of windows, so what a
sequence of calls leaves is one more equation.

## Main definitions

* `LogLine.Counts`: a line that the display takes
* `LogBuffer.window`: the display of some lines
* `BufferCall`, `LogBuffer.afterCalls`: what a display is asked, and what it is after that
* `linesSinceClear`: the lines that were offered since the display was cleared

## Main results

* `LogBuffer.push_window`: a line that is offered to a window
* `LogBuffer.afterCalls_ofCapacity`: what a sequence of calls leaves
-/

set_option autoImplicit false

namespace ProxyControl

namespace Text

/-- Blank text is what trimming leaves nothing of. -/
theorem isBlankText_iff_trim {s : String} : isBlankText s = true ↔ trim s = "" := by
  have hchars : trimChars s.toList = [] ↔ ∀ c ∈ s.toList, isBlank c = true := by
    rw [trimChars, dropEndWhile, List.reverse_eq_nil_iff, List.dropWhile_eq_nil_iff]
    simp only [List.mem_reverse]
    constructor
    · intro h c hc
      rw [← List.takeWhile_append_dropWhile (p := isBlank) (l := s.toList), List.mem_append] at hc
      exact hc.elim List.mem_takeWhile_imp (h c)
    · intro h c hc
      exact h c ((List.dropWhile_sublist isBlank).subset hc)
  rw [isBlankText, List.all_eq_true, ← hchars, trim]
  exact String.ofList_eq_empty_iff.symm

end Text

namespace LogLine

/-- A line that the display takes: a notice, or a record whose text is not blank. -/
def Counts : LogLine → Prop
  | .notice _ => True
  | .engine _ text => Text.trim text ≠ ""

instance : DecidablePred Counts
  | .notice _ => isTrue trivial
  | .engine _ text => inferInstanceAs (Decidable (Text.trim text ≠ ""))

theorem isShown_iff {line : LogLine} : line.isShown = true ↔ line.Counts := by
  cases line with
  | notice text => simp [isShown, Counts]
  | engine time text =>
    rw [isShown, Counts, ne_eq, ← Text.isBlankText_iff_trim]
    simp

end LogLine

namespace LogBuffer

/-- The display of some lines, if so many were asked for: the latest ones, and at least one. -/
def window (requested : Nat) (lines : List LogLine) : LogBuffer :=
  ⟨max requested 1, lines.rtake (max requested 1)⟩

variable {requested : Nat} {lines : List LogLine}

theorem window_nil : window requested [] = ofCapacity requested := by
  rw [window, List.rtake_nil, ofCapacity]

theorem clear_window : (window requested lines).clear = window requested [] := by
  rw [window_nil]
  rfl

/-- A line that is offered makes the oldest line go where there is no room for it. -/
theorem rtake_concat_rtake {α : Type} {n : Nat} (hn : 1 ≤ n) (l : List α) (x : α) :
    (l.rtake n).drop ((l.rtake n).length + 1 - n) ++ [x] = (l ++ [x]).rtake n := by
  obtain ⟨n, rfl⟩ := Nat.exists_eq_add_of_le' hn
  rw [List.rtake_concat_succ, List.rtake, List.rtake, List.drop_drop, List.length_drop]
  congr 2
  omega

/-- **A line that is offered to a window** is taken exactly if it counts. -/
theorem push_window (line : LogLine) :
    (window requested lines).push line =
      (window requested (lines ++ [line].filter (·.Counts)), decide line.Counts) := by
  unfold push
  by_cases h : line.Counts
  · rw [if_pos (LogLine.isShown_iff.2 h)]
    simp only [window, h, decide_true, List.filter_cons_of_pos, List.filter_nil]
    rw [rtake_concat_rtake (Nat.le_max_right requested 1)]
  · rw [if_neg (mt LogLine.isShown_iff.1 h)]
    simp [h]

end LogBuffer

/-! ## Calls -/

/-- What a display is asked. -/
inductive BufferCall where
  | push (line : LogLine)
  | clear

namespace BufferCall

/-- The line that a call offers. -/
def line? : BufferCall → Option LogLine
  | .push line => some line
  | .clear => none

end BufferCall

/-- The lines that were offered since the display was cleared. -/
def linesSinceClear (calls : List BufferCall) : List LogLine :=
  (calls.rtakeWhile fun call => call.line?.isSome).filterMap BufferCall.line?

theorem linesSinceClear_concat_push (calls : List BufferCall) (line : LogLine) :
    linesSinceClear (calls ++ [.push line]) = linesSinceClear calls ++ [line] := by
  rw [linesSinceClear, List.rtakeWhile_concat_pos _ _ _ rfl, List.filterMap_append]
  rfl

theorem linesSinceClear_concat_clear (calls : List BufferCall) :
    linesSinceClear (calls ++ [.clear]) = [] := by
  rw [linesSinceClear, List.rtakeWhile_concat_neg _ _ _ Bool.false_ne_true]
  rfl

namespace LogBuffer

/-- The display after a call. -/
def afterCall (b : LogBuffer) : BufferCall → LogBuffer
  | .push line => (b.push line).1
  | .clear => b.clear

/-- The display after some calls. -/
def afterCalls (b : LogBuffer) (calls : List BufferCall) : LogBuffer := calls.foldl afterCall b

/-- **What a sequence of calls leaves** is the window on the lines that count among those that were
offered since the last time that the display was cleared. -/
theorem afterCalls_ofCapacity (requested : Nat) (calls : List BufferCall) :
    (ofCapacity requested).afterCalls calls =
      window requested ((linesSinceClear calls).filter (·.Counts)) := by
  induction calls using List.reverseRecOn with
  | nil => exact window_nil.symm
  | append_singleton calls call ih =>
    rw [afterCalls, List.foldl_concat, ← afterCalls, ih]
    cases call with
    | push line =>
      rw [afterCall, push_window, linesSinceClear_concat_push, List.filter_append]
    | clear =>
      rw [afterCall, clear_window, linesSinceClear_concat_clear, List.filter_nil]

/-- One line is kept where none was asked for; a blank record is not taken, a blank notice is. -/
example : ((ofCapacity 0).afterCalls
    [.push (.notice "a"), .push (.notice " "), .push (.engine none " \t")]).lines =
      [.notice " "] := by decide

end LogBuffer

end ProxyControl
