import ProxyControl.Proofs.Line.Lists

/-!
# Lines read in the other dialect

The dialects agree on the bar, so a line can be read in the dialect that it was not written in, and
some lists of texts survive it. Which of them do is told by each text on its own. On a pipe-only
line a backslash is left as it is, and the full dialect keeps it where what follows forms no escape
with it; the bar after a field forms one. On a full line every backslash and line end has become an
escape, whose backslash the pipe-only dialect takes for a character.

No two wrong readings make up for each other. A pipe-only line goes wrong for the first time at some
backslash, and there the tokens are other ones than those of the list already. A full line is the
pipe-only line of longer texts, of which as many are read as are written only if each is read as it
stands.

## Main definitions

* `Dialect.IsHarmless`: a field whose backslashes form no escapes
* `Dialect.spell`: a field with its escapes spelled out

## Main results

* `Dialect.closedFields_scan_full_iff`: the fields of a pipe-only line that the full dialect reads
* `Dialect.escapeChars_full`: full lines as pipe-only lines
* `Dialect.split_join_crossed`: the lists that survive
-/

set_option autoImplicit false

namespace ProxyControl.Dialect

/-! ## Backslashes that form no escapes -/

/-- The characters that form an escape with a backslash before them. -/
def escapeMarks : List Char := ['\\', '|', 'n', 'r']

/-- Whether each backslash of a field has a character after it that forms no escape with it. -/
def IsHarmless (field : List Char) : Prop :=
  ∀ i : Nat, field[i]? = some '\\' → ∃ c, field[i + 1]? = some c ∧ c ∉ escapeMarks

instance (field : List Char) : Decidable (IsHarmless field) :=
  decidable_of_iff (∀ i < field.length, field[i]? = some '\\' →
      field[i + 1]?.any (fun c => decide (c ∉ escapeMarks)) = true) <| by
    simp only [Option.any_eq_true, decide_eq_true_eq]
    constructor
    · intro h i hi
      exact h i (List.getElem?_eq_some_iff.1 hi).1 hi
    · exact fun h i _ => h i

theorem isHarmless_nil : IsHarmless [] := fun _ h => by simp at h

theorem isHarmless_cons_iff (c : Char) (field : List Char) :
    IsHarmless (c :: field) ↔
      (c = '\\' → ∃ e, field[0]? = some e ∧ e ∉ escapeMarks) ∧ IsHarmless field := by
  constructor
  · intro h
    refine ⟨fun hc => h 0 (by rw [hc]; rfl), fun i hi => ?_⟩
    simpa using h (i + 1) (by simpa using hi)
  · rintro ⟨hfirst, hrest⟩ i hi
    cases i with
    | zero => simpa using hfirst (by simpa using hi)
    | succ i => simpa using hrest i (by simpa using hi)

theorem isHarmless_cons {c : Char} (hc : c ≠ '\\') (field : List Char) :
    IsHarmless (c :: field) ↔ IsHarmless field := by
  rw [isHarmless_cons_iff]
  exact and_iff_right fun h => absurd h hc

/-- A backslash and what follows it are harmless together, or not at all. -/
theorem isHarmless_backslash (e : Char) (field : List Char) :
    IsHarmless ('\\' :: e :: field) ↔ e ∉ escapeMarks ∧ IsHarmless field := by
  rw [isHarmless_cons_iff]
  constructor
  · rintro ⟨hfirst, hrest⟩
    have he : e ∉ escapeMarks := by simpa using hfirst rfl
    have hne : e ≠ '\\' := by
      rintro rfl
      exact he (by decide)
    exact ⟨he, (isHarmless_cons hne field).1 hrest⟩
  · rintro ⟨he, hfield⟩
    have hne : e ≠ '\\' := by
      rintro rfl
      exact he (by decide)
    exact ⟨fun _ => ⟨e, rfl, he⟩, (isHarmless_cons hne field).2 hfield⟩

theorem not_isHarmless_singleton : ¬IsHarmless ['\\'] := by
  intro h
  obtain ⟨c, hc, -⟩ := h 0 rfl
  cases hc

/-- What forms no escape is kept with the backslash before it. -/
theorem escapeValue_of_notMem {e : Char} (h : e ∉ escapeMarks) : escapeValue e = ['\\', e] := by
  simp only [escapeMarks, List.mem_cons, List.not_mem_nil, or_false, not_or] at h
  obtain ⟨hescape, -, hn, hr⟩ := h
  rw [escapeValue, if_neg hescape, if_neg hn, if_neg hr]

/-- The other escapes but that of the bar are those of the backslash and of the line ends. -/
theorem escapeValue_of_mem {e : Char} (h : e ∈ escapeMarks) (he : e ≠ '\\') (hb : e ≠ '|') :
    ∃ c, escapeValue e = [c] ∧ c ≠ '\\' := by
  have hend : e = 'n' ∨ e = 'r' := by simpa [escapeMarks, he, hb] using h
  rcases hend with rfl | rfl
  · exact ⟨'\n', rfl, by decide⟩
  · exact ⟨'\r', rfl, by decide⟩

/-! ## Pipe-only lines read in full -/

/-- A character that is no backslash is read on its own in both dialects. -/
theorem scan_full_cons {c : Char} (hc : c ≠ '\\') (field rest : List Char) :
    full.scan (pipeOnly.escapeChars (c :: field) ++ rest) =
      .text c :: full.scan (pipeOnly.escapeChars field ++ rest) := by
  rw [escapeChars_cons, List.append_assoc]
  by_cases hb : c = '|'
  · subst hb
    exact scan_escapedBar full _
  · have hwritten : pipeOnly.escapeChar c = [c] := by simp [escapeChar, hb]
    rw [hwritten, List.singleton_append, scan_plain full hb hc]

/-- A backslash is read with the character that is written after it. -/
theorem scan_full_pair {e : Char} (he : e ≠ '|') (field rest : List Char) :
    full.scan (pipeOnly.escapeChars ('\\' :: e :: field) ++ rest) =
      (escapeValue e).map .text ++ full.scan (pipeOnly.escapeChars field ++ rest) := by
  have hwritten : pipeOnly.escapeChars ('\\' :: e :: field) =
      '\\' :: e :: pipeOnly.escapeChars field := by
    simp [escapeChars, escapeChar, he]
  rw [hwritten, List.cons_append, List.cons_append, scan_full_backslash he]

/-- A bar inside a field is written with a backslash of its own, which the one before it escapes. -/
theorem scan_full_backslash_bar (field rest : List Char) :
    full.scan (pipeOnly.escapeChars ('\\' :: '|' :: field) ++ rest) =
      .text '\\' :: .bar :: full.scan (pipeOnly.escapeChars field ++ rest) := by
  have hwritten : pipeOnly.escapeChars ('\\' :: '|' :: field) =
      '\\' :: '\\' :: '|' :: pipeOnly.escapeChars field := by
    simp [escapeChars, escapeChar]
  rw [hwritten, List.cons_append, List.cons_append, List.cons_append,
    scan_full_backslash (by decide), scan_bar]
  rfl

/-- A field as it is read: a character on its own, or a backslash with the character after it. -/
@[elab_as_elim]
theorem readInduction {motive : List Char → Prop} (nil : motive [])
    (plain : ∀ c field, c ≠ '\\' → motive field → motive (c :: field))
    (last : motive ['\\'])
    (pair : ∀ e field, motive field → motive ('\\' :: e :: field)) :
    ∀ field, motive field
  | [] => nil
  | [c] =>
    if h : c = '\\' then h ▸ last else plain c [] h nil
  | c :: e :: field =>
    if h : c = '\\' then h ▸ pair e field (readInduction nil plain last pair field)
    else plain c (e :: field) h (readInduction nil plain last pair (e :: field))

/-- A harmless field is read as it was written, with the bar after it. -/
theorem scan_full_field {field : List Char} (h : IsHarmless field) (rest : List Char) :
    full.scan (pipeOnly.escapeChars field ++ '|' :: rest) =
      field.map .text ++ .bar :: full.scan rest := by
  induction field using readInduction with
  | nil => exact scan_bar full rest
  | plain c field hc ih =>
    rw [scan_full_cons hc, ih ((isHarmless_cons hc field).1 h)]
    rfl
  | last => exact absurd h not_isHarmless_singleton
  | pair e field ih =>
    obtain ⟨he, hfield⟩ := (isHarmless_backslash e field).1 h
    have hbar : e ≠ '|' := by
      rintro rfl
      exact he (by decide)
    rw [scan_full_pair hbar, escapeValue_of_notMem he, ih hfield]
    rfl

/-- How many of the first tokens are backslashes. -/
def leadingEscapes (ts : List Token) : Nat := (ts.takeWhile (· = .text '\\')).length

theorem leadingEscapes_cons (ts : List Token) :
    leadingEscapes (.text '\\' :: ts) = leadingEscapes ts + 1 := by
  simp [leadingEscapes]

theorem leadingEscapes_of_ne {t : Token} (h : t ≠ .text '\\') (ts : List Token) :
    leadingEscapes (t :: ts) = 0 := by
  simp [leadingEscapes, h]

theorem leadingEscapes_append_bar (ts rest : List Token) :
    leadingEscapes (ts ++ .bar :: rest) = leadingEscapes ts := by
  induction ts with
  | nil => simp [leadingEscapes]
  | cons t ts ih =>
    by_cases h : t = .text '\\'
    · rw [h, List.cons_append, leadingEscapes_cons, leadingEscapes_cons, ih]
    · rw [List.cons_append, leadingEscapes_of_ne h, leadingEscapes_of_ne h]

/-- **No backslashes are gained**: a field is read with no more of them at its start than it has. -/
theorem leadingEscapes_scan_le (field rest : List Char) :
    leadingEscapes (full.scan (pipeOnly.escapeChars field ++ '|' :: rest)) ≤
      leadingEscapes (field.map .text) := by
  induction field using readInduction with
  | nil =>
    have hbar : full.scan (pipeOnly.escapeChars [] ++ '|' :: rest) = .bar :: full.scan rest :=
      scan_bar full rest
    rw [hbar, leadingEscapes_of_ne (by decide)]
    exact Nat.zero_le _
  | plain c field hc =>
    rw [scan_full_cons hc, leadingEscapes_of_ne (by simpa using hc)]
    exact Nat.zero_le _
  | last =>
    have hbar : full.scan (pipeOnly.escapeChars ['\\'] ++ '|' :: rest) =
        .text '|' :: full.scan rest := scan_escapedBar full rest
    rw [hbar, leadingEscapes_of_ne (by decide)]
    exact Nat.zero_le _
  | pair e field ih =>
    rw [List.map_cons, List.map_cons, leadingEscapes_cons]
    by_cases hbar : e = '|'
    · rw [hbar, scan_full_backslash_bar, leadingEscapes_cons, leadingEscapes_of_ne (by decide)]
      omega
    rw [scan_full_pair hbar]
    by_cases he : e = '\\'
    · subst he
      have hvalue : (escapeValue '\\').map Token.text = [.text '\\'] := by decide
      rw [hvalue, List.singleton_append, leadingEscapes_cons, leadingEscapes_cons]
      omega
    · by_cases hmark : e ∈ escapeMarks
      · obtain ⟨c, hvalue, hc⟩ := escapeValue_of_mem hmark he hbar
        rw [hvalue, List.map_singleton, List.singleton_append,
          leadingEscapes_of_ne (by simpa using hc)]
        exact Nat.zero_le _
      · rw [escapeValue_of_notMem hmark, List.map_cons, List.map_cons, List.cons_append,
          leadingEscapes_cons, List.cons_append, leadingEscapes_of_ne (by simpa using he)]
        omega

/-- A field that is read as it was written, with the bar after it, is harmless. -/
theorem isHarmless_of_scan_eq {field rest : List Char} {ts : List Token}
    (h : full.scan (pipeOnly.escapeChars field ++ '|' :: rest) =
      field.map .text ++ .bar :: ts) : IsHarmless field := by
  induction field using readInduction with
  | nil => exact isHarmless_nil
  | plain c field hc ih =>
    rw [scan_full_cons hc, List.map_cons, List.cons_append] at h
    exact (isHarmless_cons hc field).2 (ih (List.cons.inj h).2)
  | last =>
    have hbar : full.scan (pipeOnly.escapeChars ['\\'] ++ '|' :: rest) =
        .text '|' :: full.scan rest := scan_escapedBar full rest
    rw [hbar] at h
    exact absurd (List.cons.inj h).1 (by decide)
  | pair e field ih =>
    rw [List.map_cons, List.map_cons, List.cons_append, List.cons_append] at h
    by_cases hbar : e = '|'
    · subst hbar
      rw [scan_full_backslash_bar] at h
      exact absurd (List.cons.inj (List.cons.inj h).2).1 (by decide)
    rw [scan_full_pair hbar] at h
    by_cases he : e = '\\'
    -- what follows would have to be read with one more backslash before it
    · subst he
      have hrest : full.scan (pipeOnly.escapeChars field ++ '|' :: rest) =
          .text '\\' :: (field.map .text ++ .bar :: ts) := (List.cons.inj h).2
      have hless := leadingEscapes_scan_le field rest
      rw [hrest, leadingEscapes_cons, leadingEscapes_append_bar] at hless
      exact absurd hless (Nat.not_succ_le_self _)
    · by_cases hmark : e ∈ escapeMarks
      · obtain ⟨c, hvalue, hc⟩ := escapeValue_of_mem hmark he hbar
        rw [hvalue, List.map_singleton, List.singleton_append] at h
        exact absurd (Token.text.inj (List.cons.inj h).1) hc
      · rw [escapeValue_of_notMem hmark] at h
        have hrest := (List.cons.inj (List.cons.inj h).2).2
        exact (isHarmless_backslash e field).2 ⟨hmark, ih hrest⟩

/-- A first field is closed by the first bar. -/
theorem exists_of_closedFields_eq_cons {start : List Char} {ts : List Token} {field : List Char}
    {fields : List (List Char)} (h : closedFields start ts = field :: fields) :
    ∃ cs later, ts = cs.map .text ++ .bar :: later ∧ field = start.reverse ++ cs := by
  induction ts generalizing start with
  | nil => cases h
  | cons t ts ih =>
    cases t with
    | bar => exact ⟨[], ts, rfl, by simpa using (List.cons.inj h).1.symm⟩
    | text c =>
      obtain ⟨cs, later, rfl, rfl⟩ := ih h
      exact ⟨c :: cs, later, rfl, by simp⟩

/-- The fields of a pipe-only line are read in full exactly if all of them are harmless. -/
theorem closedFields_scan_full_iff {fields : List (List Char)} :
    closedFields [] (full.scan (fields.flatMap fun f => pipeOnly.escapeChars f ++ ['|'])) =
      fields ↔ ∀ f ∈ fields, IsHarmless f := by
  induction fields with
  | nil => exact iff_of_true rfl fun f hf => absurd hf List.not_mem_nil
  | cons field fields ih =>
    rw [List.flatMap_cons, List.append_assoc, List.singleton_append, List.forall_mem_cons]
    by_cases hf : IsHarmless field
    · rw [scan_full_field hf, closedFields_map_text, List.append_nil, closedFields,
        List.reverse_reverse, List.cons_inj_right, ih]
      exact (and_iff_right hf).symm
    · refine iff_of_false (fun h => ?_) fun h => hf h.1
      obtain ⟨cs, later, hscan, hcs⟩ := exists_of_closedFields_eq_cons h
      rw [List.reverse_nil, List.nil_append] at hcs
      subst hcs
      exact hf (isHarmless_of_scan_eq hscan)

/-- `C:\new` is read with a line end, while `C:\keys` stays. -/
example : full.split (pipeOnly.join ["C:\\keys", "C:\\new"]) = ["C:\\keys", "C:\new"] := by decide

/-! ## Full lines read as pipe-only lines -/

/-- A character with its escape spelled out, but for the bar. -/
def spellChar (c : Char) : List Char :=
  if c = '\\' then ['\\', '\\']
  else if c = '\n' then ['\\', 'n']
  else if c = '\r' then ['\\', 'r']
  else [c]

/-- A field with its escapes spelled out, but for those of bars. -/
def spell (field : List Char) : List Char := field.flatMap spellChar

theorem escapeChar_full (c : Char) : full.escapeChar c = pipeOnly.escapeChars (spellChar c) := by
  by_cases hb : c = '|'
  · subst hb
    decide
  by_cases he : c = '\\'
  · subst he
    decide
  by_cases hn : c = '\n'
  · subst hn
    decide
  by_cases hr : c = '\r'
  · subst hr
    decide
  · simp [escapeChar, escapeChars, spellChar, hb, he, hn, hr]

/-- **A full line is the pipe-only line** of the fields with their escapes spelled out. -/
theorem escapeChars_full (field : List Char) :
    full.escapeChars field = pipeOnly.escapeChars (spell field) := by
  rw [escapeChars, escapeChars, spell, List.flatMap_assoc]
  exact congrArg (field.flatMap ·) (funext escapeChar_full)

theorem joinChars_full (fields : List (List Char)) :
    full.joinChars fields = pipeOnly.joinChars (fields.map spell) := by
  rw [joinChars, joinChars, List.map_map]
  exact congrArg (fun escape => List.intercalate ['|'] (fields.map escape))
    (funext escapeChars_full)

theorem length_le_length_spell (field : List Char) : field.length ≤ (spell field).length := by
  induction field with
  | nil => exact Nat.le_refl 0
  | cons c field ih =>
    have hc : 1 ≤ (spellChar c).length := by
      unfold spellChar
      split_ifs <;> simp
    rw [spell, List.flatMap_cons, List.length_append, List.length_cons, ← spell]
    omega

theorem spell_cons (c : Char) (field : List Char) :
    spell (c :: field) = spellChar c ++ spell field := rfl

/-- Nothing is spelled out in a field without backslashes and line ends, and in no other. -/
theorem spell_eq_self_iff {field : List Char} :
    spell field = field ↔ '\\' ∉ field ∧ '\r' ∉ field ∧ '\n' ∉ field := by
  induction field with
  | nil => exact iff_of_true rfl (by simp)
  | cons c field ih =>
    rw [spell_cons]
    by_cases he : c = '\\'
    -- a second backslash would have to be made up for
    · subst he
      refine iff_of_false (fun h => ?_) fun h => h.1 List.mem_cons_self
      have hlength := congrArg List.length h
      have hle := length_le_length_spell field
      simp only [spellChar, if_true, List.length_append, List.length_cons, List.length_nil]
        at hlength
      omega
    by_cases hn : c = '\n'
    · subst hn
      refine iff_of_false (fun h => ?_) fun h => h.2.2 List.mem_cons_self
      exact absurd (List.cons.inj h).1 (by decide)
    by_cases hr : c = '\r'
    · subst hr
      refine iff_of_false (fun h => ?_) fun h => h.2.1 List.mem_cons_self
      exact absurd (List.cons.inj h).1 (by decide)
    · have hc : spellChar c = [c] := by simp [spellChar, he, hn, hr]
      rw [hc, List.singleton_append, List.cons_inj_right, ih]
      simp [Ne.symm he, Ne.symm hn, Ne.symm hr]

theorem map_spell_eq_self_iff {fields : List (List Char)} :
    fields.map spell = fields ↔ ∀ f ∈ fields, '\\' ∉ f ∧ '\r' ∉ f ∧ '\n' ∉ f := by
  calc fields.map spell = fields
    _ ↔ fields.map spell = fields.map id := by rw [List.map_id]
    _ ↔ ∀ f ∈ fields, spell f = f := List.map_inj_left
    _ ↔ _ := forall₂_congr fun _ _ => spell_eq_self_iff

/-- What is read is what is written only if every field is read as it stands: where one is taken in
by the next, fewer are read. -/
theorem rejoined_map_spell_iff {fields : List (List Char)} :
    rejoined (fields.map spell) = fields ↔
      ∀ f ∈ fields, '\\' ∉ f ∧ '\r' ∉ f ∧ '\n' ∉ f := by
  constructor
  · intro h
    have hlength : (rejoined (fields.map spell)).length = (fields.map spell).length := by
      rw [h, List.length_map]
    rw [rejoined_eq_self (not_endsInEscape_of_length hlength)] at h
    exact map_spell_eq_self_iff.1 h
  · intro h
    rw [map_spell_eq_self_iff.2 h]
    exact rejoined_eq_self fun f hf hlast => (h f hf).1 (List.mem_of_getLast? hlast)

/-! ## Lists of texts -/

/-- **Lists read in the other dialect.** A list of texts is read in full from its pipe-only line
exactly if each backslash of its texts has a character after it in its text that is no backslash, no
bar and none of the letters of line ends. It is read from its full line as from a pipe-only one
exactly if none of its texts holds a backslash or a line end. -/
theorem split_join_crossed {fields : List String} (h : fields ≠ []) :
    (full.split (pipeOnly.join fields) = fields ↔
      ∀ text ∈ fields, ∀ i : Nat, text.toList[i]? = some '\\' →
        ∃ c, text.toList[i + 1]? = some c ∧ c ∉ ['\\', '|', 'n', 'r']) ∧
      (pipeOnly.split (full.join fields) = fields ↔
        ∀ text ∈ fields, '\\' ∉ text.toList ∧ '\r' ∉ text.toList ∧ '\n' ∉ text.toList) := by
  have hne : fields.map String.toList ≠ [] := by simpa using h
  constructor
  · have hread : full.split (pipeOnly.join fields) = (closedFields [] (full.scan
        ((fields.map String.toList).flatMap fun f => pipeOnly.escapeChars f ++ ['|']))).map
          String.ofList := by
      rw [split, join, String.toList_ofList, splitChars, joinChars_append_bar pipeOnly hne]
    rw [hread, map_ofList_eq_iff, closedFields_scan_full_iff, List.forall_mem_map]
    rfl
  · have hread : pipeOnly.split (full.join fields) =
        (rejoined ((fields.map String.toList).map spell)).map String.ofList := by
      rw [split, join, String.toList_ofList, joinChars_full,
        splitChars_joinChars_pipeOnly (by simpa using h)]
    rw [hread, map_ofList_eq_iff, rejoined_map_spell_iff, List.forall_mem_map]

/-- Texts that hold bars, and a backslash before a letter that is no escape. -/
def oldKeys : List String := ["C:\\keys", "a|b", ""]

/-- They are read in full from their pipe-only line, and not the other way round. -/
theorem split_join_crossed_oldKeys : oldKeys ≠ [] ∧
    full.split (pipeOnly.join oldKeys) = oldKeys ∧
    pipeOnly.split (full.join oldKeys) ≠ oldKeys := by
  have hne : oldKeys ≠ [] := by decide
  have hharmless : ∀ text ∈ oldKeys, IsHarmless text.toList := by decide
  obtain ⟨hfull, hpipe⟩ := split_join_crossed hne
  refine ⟨hne, hfull.2 hharmless, fun h => ?_⟩
  exact (hpipe.1 h "C:\\keys" (by decide)).1 (by decide)

end ProxyControl.Dialect
