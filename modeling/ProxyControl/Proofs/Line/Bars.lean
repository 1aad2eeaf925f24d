import ProxyControl.Proofs.Line.Fields
import Mathlib.Algebra.Group.Nat.Even

/-!
# Lines read in one pass and in two

A line is read in one pass, which decodes escapes while it looks for bars. Told in two passes, the
bars that are not escaped are found first, by what stands right before each of them, and then the
text between every two of them is decoded on its own. In the pipe-only dialect a backslash right
before a bar escapes it. In the full dialect backslashes escape each other, so a bar is escaped
where an odd number of them stands right before it, however the text before those is read: their
run starts after a character that is no backslash, and with such a character every escape is over.

The two readings agree because a text after which a bar is not escaped is scanned on its own,
whatever follows it.

## Main definitions

* `Dialect.IsComplete`: a bar after a text is not escaped
* `Dialect.bars`, `Dialect.starts`: where the bars are that are not escaped, and where fields start

## Main results

* `Dialect.scan_append`: such a text is scanned on its own
* `Dialect.closedFields_scan_eq`: one pass reads what two do
* `Dialect.split_between_bars`: the fields of a line by its bars
-/

set_option autoImplicit false

namespace ProxyControl.Dialect

/-! ## Bars that are not escaped -/

/-- How many backslashes a text ends in. -/
def escapeRun (text : List Char) : Nat := (text.reverse.takeWhile (· = '\\')).length

/-- Whether a bar right after a text is not escaped. -/
def IsComplete (d : Dialect) (text : List Char) : Prop :=
  match d with
  | .full => Even (escapeRun text)
  | .pipeOnly => text.getLast? ≠ some '\\'

instance (d : Dialect) (text : List Char) : Decidable (d.IsComplete text) :=
  match d with
  | .full => inferInstanceAs (Decidable (Even (escapeRun text)))
  | .pipeOnly => inferInstanceAs (Decidable (text.getLast? ≠ some '\\'))

/-- The places of the bars of a text that are not escaped. -/
def bars (d : Dialect) (text : List Char) : List Nat :=
  (List.range text.length).filter fun i => text[i]? = some '|' ∧ d.IsComplete (text.take i)

/-- The places where fields start: at the start of the text, and after each of these bars. -/
def starts (d : Dialect) (text : List Char) : List Nat := 0 :: (d.bars text).map (· + 1)

variable {d : Dialect}

theorem escapeRun_append_of_ne {c : Char} (hc : c ≠ '\\') (before raw : List Char) :
    escapeRun (before ++ c :: raw) = escapeRun raw := by
  have hrev : (before ++ c :: raw).reverse = raw.reverse ++ c :: before.reverse := by simp
  rw [escapeRun, escapeRun, hrev, List.takeWhile_append]
  split
  · next h => simp [h, hc]
  · rfl

theorem even_escapeRun_pair (e : Char) (raw : List Char) :
    Even (escapeRun ('\\' :: e :: raw)) ↔ Even (escapeRun raw) := by
  by_cases he : e = '\\'
  · subst he
    have hrev : ('\\' :: '\\' :: raw).reverse = raw.reverse ++ ['\\', '\\'] := by simp
    rw [escapeRun, escapeRun, hrev, List.takeWhile_append]
    split
    · next h => simp [h, Nat.even_add_one]
    · rfl
  · exact iff_of_eq (congrArg Even (escapeRun_append_of_ne he ['\\'] raw))

theorem isComplete_append_of_ne {c : Char} (hc : c ≠ '\\') (before raw : List Char) :
    d.IsComplete (before ++ c :: raw) ↔ d.IsComplete raw := by
  cases d with
  | full => exact iff_of_eq (congrArg Even (escapeRun_append_of_ne hc before raw))
  | pipeOnly =>
    cases raw with
    | nil => simp [IsComplete, hc]
    | cons a raw => simp [IsComplete]

theorem isComplete_cons {c : Char} (hc : c ≠ '\\') (raw : List Char) :
    d.IsComplete (c :: raw) ↔ d.IsComplete raw := isComplete_append_of_ne hc [] raw

theorem scan_append {raw : List Char} (h : d.IsComplete raw) (rest : List Char) :
    d.scan (raw ++ rest) = d.scan raw ++ d.scan rest := by
  fun_induction scan d raw with
  | case1 => rfl
  | case2 c =>
    by_cases hb : c = '|'
    · subst hb
      exact scan_bar d rest
    · have he : c ≠ '\\' := by
        rintro rfl
        cases d <;> exact absurd h (by decide)
      rw [List.singleton_append, scan_plain d hb he, if_neg hb, List.singleton_append]
  | case3 raw ih =>
    have hraw := (isComplete_append_of_ne (by decide) ['\\'] raw).1 h
    rw [List.cons_append, List.cons_append, scan_escapedBar, ih hraw, List.cons_append]
  | case4 e raw he hd ih =>
    subst hd
    have hraw : pipeOnly.IsComplete (e :: raw) := by simpa [IsComplete] using h
    rw [List.cons_append, List.cons_append, scan_pipeOnly_backslash he, ← List.cons_append,
      ih hraw, List.cons_append]
  | case5 e raw he hd ih =>
    subst hd
    have hraw := (even_escapeRun_pair e raw).1 h
    rw [List.cons_append, List.cons_append, scan_full_backslash he, ih hraw, List.append_assoc]
  | case6 e raw _ ih =>
    have hraw := (isComplete_cons (by decide) _).1 h
    rw [List.cons_append, scan_bar, ih hraw, List.cons_append]
  | case7 c e raw he hb ih =>
    have hraw := (isComplete_cons he _).1 h
    rw [List.cons_append, scan_plain d hb he, ih hraw, List.cons_append]

/-- A bar that the scan finds is not escaped. -/
theorem exists_of_bar_mem_scan {text : List Char} (h : .bar ∈ d.scan text) :
    ∃ raw rest, text = raw ++ '|' :: rest ∧ d.IsComplete raw := by
  have hnil : d.IsComplete [] := by cases d <;> decide
  fun_induction scan d text with
  | case1 => cases h
  | case2 c =>
    have hc : c = '|' := by
      by_contra hne
      simp [hne] at h
    exact ⟨[], [], by rw [hc]; rfl, hnil⟩
  | case3 text ih =>
    obtain ⟨raw, rest, rfl, hraw⟩ := ih (by simpa using h)
    exact ⟨'\\' :: '|' :: raw, rest, rfl,
      (isComplete_append_of_ne (by decide) ['\\'] raw).2 hraw⟩
  | case4 e text he hd ih =>
    subst hd
    obtain ⟨raw, rest, htext, hraw⟩ := ih (by simpa using h)
    refine ⟨'\\' :: raw, rest, by rw [htext]; rfl, ?_⟩
    cases raw with
    | nil => exact absurd (List.cons.inj htext).1 he
    | cons a raw => simpa [IsComplete] using hraw
  | case5 e text he hd ih =>
    subst hd
    obtain ⟨raw, rest, rfl, hraw⟩ := ih (by simpa using h)
    exact ⟨'\\' :: e :: raw, rest, rfl, (even_escapeRun_pair e raw).2 hraw⟩
  | case6 e text _ ih => exact ⟨[], e :: text, rfl, hnil⟩
  | case7 c e text he hb ih =>
    obtain ⟨raw, rest, htext, hraw⟩ := ih (by simpa using h)
    exact ⟨c :: raw, rest, by rw [htext]; rfl, (isComplete_cons he raw).2 hraw⟩

theorem mem_bars {text : List Char} {i : Nat} :
    i ∈ d.bars text ↔ text[i]? = some '|' ∧ d.IsComplete (text.take i) := by
  rw [bars, List.mem_filter, List.mem_range, decide_eq_true_eq]
  refine ⟨And.right, fun h => ⟨?_, h⟩⟩
  exact (List.getElem?_eq_some_iff.1 h.1).1

theorem bar_notMem_scan {text : List Char} (h : d.bars text = []) : .bar ∉ d.scan text := by
  intro hmem
  obtain ⟨raw, rest, rfl, hraw⟩ := exists_of_bar_mem_scan hmem
  have hbar : raw.length ∈ d.bars (raw ++ '|' :: rest) := mem_bars.2 ⟨by simp, by simpa using hraw⟩
  rw [h] at hbar
  cases hbar

/-- The first bar that is not escaped. -/
theorem exists_of_bars_ne_nil {text : List Char} (h : d.bars text ≠ []) :
    ∃ raw rest, text = raw ++ '|' :: rest ∧ d.bars raw = [] ∧ d.IsComplete raw := by
  obtain ⟨i, later, hi⟩ := List.exists_cons_of_ne_nil h
  have hmem : i ∈ d.bars text := by rw [hi]; exact List.mem_cons_self
  obtain ⟨hbar, hraw⟩ := mem_bars.1 hmem
  obtain ⟨hlt, hget⟩ := List.getElem?_eq_some_iff.1 hbar
  refine ⟨text.take i, text.drop (i + 1), ?_, ?_, hraw⟩
  · rw [← hget, List.getElem_cons_drop, List.take_append_drop]
  · have hsorted : (d.bars text).Pairwise (· < ·) := List.pairwise_lt_range.filter _
    rw [hi, List.pairwise_cons] at hsorted
    refine List.eq_nil_iff_forall_not_mem.2 fun j hj => ?_
    obtain ⟨hjbar, hjraw⟩ := mem_bars.1 hj
    have hji : j < i := by
      have := (List.getElem?_eq_some_iff.1 hjbar).1
      rw [List.length_take] at this
      omega
    rw [List.getElem?_take_of_lt hji] at hjbar
    rw [List.take_take, Nat.min_eq_left (Nat.le_of_lt hji)] at hjraw
    have hjmem : j ∈ d.bars text := mem_bars.2 ⟨hjbar, hjraw⟩
    rw [hi] at hjmem
    rcases List.mem_cons.1 hjmem with rfl | hlater
    · exact Nat.lt_irrefl _ hji
    · exact Nat.lt_asymm hji (hsorted.1 j hlater)

theorem bars_append_bar {raw : List Char} (hraw : d.bars raw = []) (hc : d.IsComplete raw)
    (rest : List Char) :
    d.bars (raw ++ '|' :: rest) =
      raw.length :: (d.bars rest).map (raw.length + 1 + ·) := by
  have hlen : (raw ++ '|' :: rest).length = raw.length + (rest.length + 1) := by simp
  rw [bars, hlen, List.range_add, List.filter_append, List.range_succ_eq_map, List.map_cons,
    List.filter_cons]
  have hfirst : (List.range raw.length).filter (fun i =>
      decide ((raw ++ '|' :: rest)[i]? = some '|' ∧
        d.IsComplete ((raw ++ '|' :: rest).take i))) = d.bars raw := by
    refine List.filter_congr fun i hi => ?_
    have hlt := List.mem_range.1 hi
    rw [List.getElem?_append_left hlt, List.take_append_of_le_length (Nat.le_of_lt hlt)]
  rw [hfirst, hraw, List.nil_append, if_pos (by simp [hc]), Nat.add_zero, List.map_map,
    List.filter_map, bars]
  congr 1
  have hshift : (fun i => raw.length + i) ∘ Nat.succ = (raw.length + 1 + ·) := by
    funext i
    simp only [Function.comp, Nat.succ_eq_add_one]
    omega
  rw [hshift]
  refine congrArg (List.map _) (List.filter_congr fun i _ => ?_)
  have hget : (raw ++ '|' :: rest)[raw.length + 1 + i]? = rest[i]? := by
    rw [List.getElem?_append_right (by omega)]
    have : raw.length + 1 + i - raw.length = i + 1 := by omega
    rw [this, List.getElem?_cons_succ]
  have htake : (raw ++ '|' :: rest).take (raw.length + 1 + i) = raw ++ '|' :: rest.take i := by
    rw [Nat.add_assoc, List.take_length_add_append, Nat.add_comm 1 i, List.take_succ_cons]
  simp only [Function.comp, hget, htake, isComplete_append_of_ne (by decide : '|' ≠ '\\')]

theorem starts_append_bar {raw : List Char} (hraw : d.bars raw = []) (hc : d.IsComplete raw)
    (rest : List Char) :
    d.starts (raw ++ '|' :: rest) = 0 :: (d.starts rest).map (raw.length + 1 + ·) := by
  rw [starts, bars_append_bar hraw hc, starts]
  simp [Nat.add_assoc]

/-! ## Fields between bars -/

/-- What a text holds between two places where a field starts. -/
def rawFields (d : Dialect) (text : List Char) : List (List Char) :=
  List.zipWith (fun start bar => text.extract start bar) (d.starts text) (d.bars text)

theorem length_rawFields (text : List Char) :
    (d.rawFields text).length = (d.bars text).length := by
  simp [rawFields, starts]

theorem rawFields_append_bar {raw : List Char} (hraw : d.bars raw = []) (hc : d.IsComplete raw)
    (rest : List Char) :
    d.rawFields (raw ++ '|' :: rest) = raw :: d.rawFields rest := by
  rw [rawFields, starts_append_bar hraw hc, bars_append_bar hraw hc, List.zipWith_cons_cons,
    List.zipWith_map, rawFields]
  congr 1
  · simp [List.extract]
  · refine congrFun (congrFun (congrArg List.zipWith ?_) _) _
    funext start bar
    have hdrop : (raw ++ '|' :: rest).drop (raw.length + 1 + start) = rest.drop start := by
      rw [Nat.add_assoc, List.drop_length_add_append, Nat.add_comm 1 start, List.drop_succ_cons]
    rw [List.extract_eq_take_drop, List.extract_eq_take_drop, hdrop, Nat.add_sub_add_left]

/-- Tokens without bars are text. -/
theorem map_text_char {ts : List Token} (h : .bar ∉ ts) : (ts.map Token.char).map .text = ts := by
  rw [List.map_map]
  refine (List.map_congr_left fun t ht => ?_).trans (List.map_id ts)
  cases t with
  | text c => rfl
  | bar => exact absurd ht h

theorem closedFields_of_bar_notMem {ts : List Token} (h : .bar ∉ ts) (rest : List Token) :
    closedFields [] (ts ++ rest) = closedFields (ts.map Token.char).reverse rest := by
  conv_lhs => rw [← map_text_char h]
  rw [closedFields_map_text, List.append_nil]

/-- **One pass is two.** -/
theorem closedFields_scan_eq (text : List Char) :
    closedFields [] (d.scan text) = (d.rawFields text).map d.unescapeChars := by
  by_cases hb : d.bars text = []
  · have hnone := bar_notMem_scan hb
    have hclosed := closedFields_of_bar_notMem hnone []
    rw [List.append_nil] at hclosed
    rw [hclosed, rawFields, hb, List.zipWith_nil_right]
    rfl
  · obtain ⟨raw, rest, rfl, hraw, hc⟩ := exists_of_bars_ne_nil hb
    have hlt : rest.length < (raw ++ '|' :: rest).length := by simp; omega
    rw [scan_append hc, scan_bar, closedFields_of_bar_notMem (bar_notMem_scan hraw), closedFields,
      List.reverse_reverse, closedFields_scan_eq rest, rawFields_append_bar hraw hc]
    rfl
termination_by text.length

/-- The place where the last field would start that no bar closes. -/
def lastStart (d : Dialect) (text : List Char) : Nat :=
  (d.starts text).getLast (List.cons_ne_nil _ _)

theorem rawFields_take_lastStart (text : List Char) :
    d.rawFields (text.take (d.lastStart text)) = d.rawFields text := by
  by_cases hb : d.bars text = []
  · have hlast : d.lastStart text = 0 := by simp [lastStart, starts, hb]
    rw [hlast, List.take_zero, rawFields, rawFields, hb, List.zipWith_nil_right]
    rfl
  · obtain ⟨raw, rest, rfl, hraw, hc⟩ := exists_of_bars_ne_nil hb
    have hlt : rest.length < (raw ++ '|' :: rest).length := by simp; omega
    have hlast : d.lastStart (raw ++ '|' :: rest) = raw.length + 1 + d.lastStart rest := by
      simp only [lastStart, starts_append_bar hraw hc]
      rw [List.getLast_cons (by simp [starts]), List.getLast_map]
    have htake : (raw ++ '|' :: rest).take (raw.length + 1 + d.lastStart rest) =
        raw ++ '|' :: rest.take (d.lastStart rest) := by
      rw [Nat.add_assoc, List.take_length_add_append, Nat.add_comm 1, List.take_succ_cons]
    rw [hlast, htake, rawFields_append_bar hraw hc, rawFields_append_bar hraw hc,
      rawFields_take_lastStart rest]
termination_by text.length

/-- **The fields of a line by its bars.** With one more bar at its end, a line has as many fields as
there are bars in it that are not escaped. Each field is what the line holds between two of these
bars that follow each other, decoded on its own, and what follows the last of them is in no field:
without it the same fields are read. -/
theorem split_between_bars (d : Dialect) (line : String) :
    let text := (line ++ "|").toList
    (d.split line).length = (d.bars text).length ∧
      (∀ i start bar : Nat, (d.starts text)[i]? = some start → (d.bars text)[i]? = some bar →
        (d.split line)[i]? = some (d.unescape (String.ofList (text.extract start bar)))) ∧
      d.split line =
        (closedFields [] (d.scan (text.take (d.lastStart text)))).map String.ofList := by
  intro text
  have htext : text = line.toList ++ ['|'] := by simp [text]
  have hsplit : d.split line = ((d.rawFields text).map d.unescapeChars).map String.ofList := by
    rw [split, splitChars, ← htext, closedFields_scan_eq]
  refine ⟨?_, ?_, ?_⟩
  · rw [hsplit, List.length_map, List.length_map, length_rawFields]
  · intro i start bar hstart hbar
    have hraw : (d.rawFields text)[i]? = some (text.extract start bar) := by
      rw [rawFields, List.getElem?_zipWith, hstart, hbar]
    rw [hsplit, List.getElem?_map, List.getElem?_map, hraw]
    simp [unescape]
  · rw [hsplit, closedFields_scan_eq, rawFields_take_lastStart]

/-- The last bar is escaped by the backslash at the end of the line, so one field is read. -/
example : full.bars "a|b\\|".toList = [1] ∧ full.split "a|b\\" = ["a"] := by decide

end ProxyControl.Dialect
