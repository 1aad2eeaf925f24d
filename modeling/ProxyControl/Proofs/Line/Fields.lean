import ProxyControl.Dialect

/-!
# Fields of full lines

In the full dialect every field reads back from its line, whatever it holds. An escaped character is
one step of the scan, and what that step finds does not depend on what follows; so the scan of a
line is the text of its fields with a bar after each, and a backslash at the end of a field is never
taken for the start of an escape.

## Main results

* `Dialect.scan_escapeChars`: the tokens of an escaped field
* `Dialect.splitChars_joinChars`: the fields of a full line
* `Dialect.notMem_joinChars`: a full line holds no line ends
-/

set_option autoImplicit false

namespace ProxyControl.Dialect

/-! ## Tokens -/

/-- What a character is read as depends on itself and the next one. -/
theorem scan_cons_cons (d : Dialect) (c e : Char) (rest : List Char) :
    d.scan (c :: e :: rest) =
      if c = '\\' then
        if e = '|' then .text '|' :: d.scan rest
        else match d with
          | .pipeOnly => .text '\\' :: d.scan (e :: rest)
          | .full => (escapeValue e).map .text ++ d.scan rest
      else if c = '|' then .bar :: d.scan (e :: rest)
      else .text c :: d.scan (e :: rest) :=
  rfl

/-- A bar that no backslash stands before closes a field, whatever follows. -/
theorem scan_bar (d : Dialect) (rest : List Char) : d.scan ('|' :: rest) = .bar :: d.scan rest := by
  cases rest with
  | nil => rfl
  | cons e rest => rw [scan_cons_cons, if_neg (by decide), if_pos rfl]

/-- A plain character is one of its field, whatever follows. -/
theorem scan_plain (d : Dialect) {c : Char} (hb : c ≠ '|') (he : c ≠ '\\') (rest : List Char) :
    d.scan (c :: rest) = .text c :: d.scan rest := by
  cases rest with
  | nil => exact congrArg (fun t => [t]) (if_neg hb)
  | cons e rest => rw [scan_cons_cons, if_neg he, if_neg hb]

/-- An escaped bar is one of its field, whatever follows. -/
theorem scan_escapedBar (d : Dialect) (rest : List Char) :
    d.scan ('\\' :: '|' :: rest) = .text '|' :: d.scan rest := by
  rw [scan_cons_cons, if_pos rfl, if_pos rfl]

theorem scan_pipeOnly_backslash {e : Char} (he : e ≠ '|') (rest : List Char) :
    pipeOnly.scan ('\\' :: e :: rest) = .text '\\' :: pipeOnly.scan (e :: rest) := by
  rw [scan_cons_cons, if_pos rfl, if_neg he]

theorem scan_full_backslash {e : Char} (he : e ≠ '|') (rest : List Char) :
    full.scan ('\\' :: e :: rest) = (escapeValue e).map .text ++ full.scan rest := by
  rw [scan_cons_cons, if_pos rfl, if_neg he]

/-- An escaped character is read as the character, whatever follows. -/
theorem scan_escapeChar (c : Char) (rest : List Char) :
    full.scan (full.escapeChar c ++ rest) = .text c :: full.scan rest := by
  by_cases hb : c = '|'
  · subst hb
    simp [escapeChar, scan]
  by_cases he : c = '\\'
  · subst he
    simp [escapeChar, scan, escapeValue]
  by_cases hn : c = '\n'
  · subst hn
    simp [escapeChar, scan, escapeValue]
  by_cases hr : c = '\r'
  · subst hr
    simp [escapeChar, scan, escapeValue]
  · have hc : full.escapeChar c = [c] := by simp [escapeChar, hb, he, hn, hr]
    rw [hc, List.singleton_append, scan_plain full hb he]

/-- **The tokens of an escaped field** are its characters, whatever follows. -/
theorem scan_escapeChars (cs rest : List Char) :
    full.scan (full.escapeChars cs ++ rest) = cs.map .text ++ full.scan rest := by
  induction cs with
  | nil => rfl
  | cons c cs ih =>
    rw [escapeChars, List.flatMap_cons, List.append_assoc, scan_escapeChar, List.map_cons,
      List.cons_append]
    exact congrArg (Token.text c :: ·) ih

/-! ## Fields -/

theorem closedFields_map_text (field cs : List Char) (ts : List Token) :
    closedFields field (cs.map .text ++ ts) = closedFields (cs.reverse ++ field) ts := by
  induction cs generalizing field with
  | nil => rfl
  | cons c cs ih =>
    rw [List.map_cons, List.cons_append, closedFields, ih, List.reverse_cons, List.append_assoc,
      List.singleton_append]

/-- With one more bar at its end, a line is its fields with a bar after each. -/
theorem joinChars_append_bar (d : Dialect) {fields : List (List Char)} (h : fields ≠ []) :
    d.joinChars fields ++ ['|'] = fields.flatMap fun f => d.escapeChars f ++ ['|'] := by
  induction fields with
  | nil => exact absurd rfl h
  | cons f fields ih =>
    cases fields with
    | nil => simp [joinChars]
    | cons g fields =>
      have hjoin : d.joinChars (f :: g :: fields) =
          d.escapeChars f ++ ['|'] ++ d.joinChars (g :: fields) := by
        simp [joinChars]
      rw [hjoin, List.append_assoc, ih (List.cons_ne_nil g fields)]
      rfl

/-- The fields of a line that has a bar after each of them. -/
theorem closedFields_scan_flatMap (fields : List (List Char)) :
    closedFields [] (full.scan (fields.flatMap fun f => full.escapeChars f ++ ['|'])) = fields := by
  induction fields with
  | nil => rfl
  | cons f fields ih =>
    rw [List.flatMap_cons, List.append_assoc, scan_escapeChars, closedFields_map_text,
      List.singleton_append, scan_bar, closedFields, ih, List.append_nil, List.reverse_reverse]

/-- **The fields of a full line** are those that it was written from. -/
theorem splitChars_joinChars {fields : List (List Char)} (h : fields ≠ []) :
    full.splitChars (full.joinChars fields) = fields := by
  rw [splitChars, joinChars_append_bar full h, closedFields_scan_flatMap]

/-! ## Line ends -/

/-- No character is escaped with a line end. -/
theorem ne_of_mem_escapeChar {c e : Char} (h : e ∈ full.escapeChar c) : e ≠ '\n' ∧ e ≠ '\r' := by
  grind [escapeChar]

/-- **A full line holds no line ends**, whatever its fields hold. -/
theorem notMem_joinChars (fields : List (List Char)) :
    '\n' ∉ full.joinChars fields ∧ '\r' ∉ full.joinChars fields := by
  have h : ∀ e ∈ full.joinChars fields, e ≠ '\n' ∧ e ≠ '\r' := by
    intro e he
    have hmem : e ∈ full.joinChars fields ++ ['|'] := List.mem_append_left _ he
    cases fields with
    | nil => cases he
    | cons f fields =>
      rw [joinChars_append_bar full (List.cons_ne_nil f fields)] at hmem
      obtain ⟨g, -, hg⟩ := List.mem_flatMap.1 hmem
      rcases List.mem_append.1 hg with hg | hg
      · obtain ⟨c, -, hc⟩ := List.mem_flatMap.1 hg
        exact ne_of_mem_escapeChar hc
      · rw [List.mem_singleton.1 hg]
        decide
  exact ⟨fun hn => (h _ hn).1 rfl, fun hr => (h _ hr).2 rfl⟩

end ProxyControl.Dialect
