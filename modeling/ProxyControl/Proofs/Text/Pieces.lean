import ProxyControl.Text.Pieces

/-!
# Pieces of sequences that were put together

A sequence is cut where a separator stands, whatever stands on its two sides. So lines that were put
together with a line feed after each are cut into the same lines again, as long as none of them
holds a line feed or ends in a carriage return, which would be taken for one of the line end.

## Main results

* `splitWhere_eq_splitOnP`: the pieces are those of the library
* `splitWhere_append_cons`: the pieces on the two sides of a separator
* `lines_flatMap`: lines that were put together
-/

set_option autoImplicit false

namespace ProxyControl.Text

variable {α : Type}

/-! ## Separators -/

theorem splitWhereFrom_eq_splitOnPPrepend (p : α → Bool) (piece xs : List α) :
    splitWhereFrom p piece xs = xs.splitOnPPrepend p piece := by
  induction xs generalizing piece with
  | nil => rfl
  | cons x xs ih =>
    rw [splitWhereFrom, List.splitOnPPrepend_cons_eq_if, ih, ih]
    rfl

/-- The pieces of a sequence are those of the library. -/
theorem splitWhere_eq_splitOnP (p : α → Bool) (xs : List α) : splitWhere p xs = xs.splitOnP p :=
  splitWhereFrom_eq_splitOnPPrepend p [] xs

/-- A sequence without separators is one piece. -/
theorem splitWhere_of_all_not {p : α → Bool} {xs : List α} (h : ∀ x ∈ xs, p x = false) :
    splitWhere p xs = [xs] := by
  rw [splitWhere_eq_splitOnP, List.splitOnP_eq_singleton h]

/-- **The pieces on the two sides of a separator** are those of the whole. -/
theorem splitWhere_append_cons {p : α → Bool} {x : α} (hx : p x = true) (xs ys : List α) :
    splitWhere p (xs ++ x :: ys) = splitWhere p xs ++ splitWhere p ys := by
  simp only [splitWhere_eq_splitOnP]
  exact List.splitOnP_append_cons xs ys hx

theorem splitWhere_ne_nil (p : α → Bool) (xs : List α) : splitWhere p xs ≠ [] := by
  rw [splitWhere_eq_splitOnP]
  exact List.splitOnP_ne_nil p xs

theorem eq_false_of_mem_splitWhereFrom {p : α → Bool} {xs start piece : List α}
    (hstart : ∀ x ∈ start, p x = false) (h : piece ∈ splitWhereFrom p start xs) :
    ∀ x ∈ piece, p x = false := by
  induction xs generalizing start with
  | nil =>
    rw [List.mem_singleton.1 h]
    exact fun x hx => hstart x (List.mem_reverse.1 hx)
  | cons y xs ih =>
    rw [splitWhereFrom] at h
    split at h
    · rcases List.mem_cons.1 h with rfl | h
      · exact fun x hx => hstart x (List.mem_reverse.1 hx)
      · exact ih (fun _ hx => absurd hx List.not_mem_nil) h
    · next hy =>
      refine ih (fun x hx => ?_) h
      rcases List.mem_cons.1 hx with rfl | hx
      · exact Bool.eq_false_iff.2 hy
      · exact hstart x hx

/-- A piece holds no separator. -/
theorem eq_false_of_mem_splitWhere {p : α → Bool} {xs piece : List α}
    (h : piece ∈ splitWhere p xs) : ∀ x ∈ piece, p x = false :=
  eq_false_of_mem_splitWhereFrom (fun _ hx => absurd hx List.not_mem_nil) h

/-! ## Lines -/

/-- A first line is cut off. -/
theorem segments_append_cons [DecidableEq α] {terminator : α} {xs : List α} (h : terminator ∉ xs)
    (rest : List α) :
    segments terminator (xs ++ terminator :: rest) = (xs, true) :: segments terminator rest := by
  have hx : ∀ x ∈ xs, decide (x = terminator) = false := by
    intro x hx
    exact decide_eq_false fun he => h (he ▸ hx)
  have hcut := splitWhere_append_cons (p := fun x => decide (x = terminator)) (x := terminator)
    (decide_eq_true rfl) xs rest
  rw [splitWhere_of_all_not hx, List.singleton_append] at hcut
  have hne := splitWhere_ne_nil (fun x => decide (x = terminator)) rest
  simp only [segments, hcut, List.dropLast_cons_of_ne_nil hne, List.getLast?_cons, List.map_cons,
    List.cons_append, List.getLast?_eq_some_getLast hne, Option.getD_some]

/-- **Lines that were put together** with a line feed after each are the lines of the whole. -/
theorem lines_flatMap {ls : List (List Char)} (hn : ∀ l ∈ ls, '\n' ∉ l)
    (hr : ∀ l ∈ ls, dropCarriageReturn l = l) : lines (ls.flatMap fun l => l ++ ['\n']) = ls := by
  induction ls with
  | nil => rfl
  | cons l ls ih =>
    have hrest := ih (fun m hm => hn m (List.mem_cons_of_mem l hm))
      fun m hm => hr m (List.mem_cons_of_mem l hm)
    unfold lines at hrest ⊢
    rw [List.flatMap_cons, List.append_assoc, List.singleton_append,
      segments_append_cons (hn l List.mem_cons_self), List.map_cons, hrest, if_pos rfl,
      hr l List.mem_cons_self]

end ProxyControl.Text
