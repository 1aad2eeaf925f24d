import ProxyControl.Proofs.Line.PipeOnly

/-!
# Lists of texts on one line

A line of the full dialect holds any list of texts but the empty one, which is written as the list
of one empty text is. A line of the pipe-only dialect loses one text for each that ends in a
backslash, wherever it stands: such a text is read together with the next one, and where it is the
last it is not read at all. So the number of texts that are read tells whether anything was lost.

## Main results

* `Dialect.split_join_full`: full lines read back, and tell lists apart
* `Dialect.length_rejoined`: how many fields are read for some that were written
* `Dialect.split_join_pipeOnly`: what pipe-only lines lose
-/

set_option autoImplicit false

namespace ProxyControl.Dialect

/-- A list of texts is read as the fields of its line are. -/
theorem split_join_eq (d : Dialect) (fields : List String) :
    d.split (d.join fields) =
      (d.splitChars (d.joinChars (fields.map String.toList))).map String.ofList := by
  rw [split, join, String.toList_ofList]

theorem map_ofList_map_toList (fields : List String) :
    (fields.map String.toList).map String.ofList = fields := by
  rw [List.map_map]
  refine (List.map_congr_left fun field _ => ?_).trans (List.map_id fields)
  exact String.ofList_toList

theorem map_ofList_eq_iff {texts : List (List Char)} {fields : List String} :
    texts.map String.ofList = fields ↔ texts = fields.map String.toList := by
  constructor
  · rintro rfl
    rw [List.map_map]
    refine (List.map_id texts).symm.trans (List.map_congr_left fun text _ => ?_)
    exact String.toList_ofList.symm
  · rintro rfl
    exact map_ofList_map_toList fields

/-! ## Full lines -/

/-- A field reads back from what it is written as. -/
theorem unescapeChars_escapeChars (field : List Char) :
    full.unescapeChars (full.escapeChars field) = field := by
  have hscan := scan_escapeChars field []
  rw [List.append_nil] at hscan
  have htokens : full.scan (full.escapeChars field) = field.map .text :=
    hscan.trans (List.append_nil _)
  rw [unescapeChars, htokens, List.map_map]
  exact List.map_id field

/-- **Full lines.** Every list of texts but the empty one reads back from its line, and every text
from what it is written as, whatever they hold; so no two of these lists have one line. -/
theorem split_join_full :
    (∀ fields : List String, fields ≠ [] → full.split (full.join fields) = fields) ∧
      (∀ text : String, full.unescape (full.escape text) = text) ∧
      Set.InjOn full.join {fields | fields ≠ []} := by
  have hread : ∀ fields : List String, fields ≠ [] → full.split (full.join fields) = fields := by
    intro fields h
    have hne : fields.map String.toList ≠ [] := by simpa using h
    rw [split_join_eq, splitChars_joinChars hne, map_ofList_map_toList]
  refine ⟨hread, fun text => ?_, fun fields h others h' hline => ?_⟩
  · rw [unescape, escape, String.toList_ofList, unescapeChars_escapeChars, String.ofList_toList]
  · rw [← hread fields h, hline, hread others h']

/-- Texts that end in a backslash, one of them at the end, and texts that hold line ends or
nothing. -/
def awkwardTexts : List String := ["end\\", "\r\n|", "", "\\n\\"]

theorem split_join_full_awkwardTexts : awkwardTexts ≠ [] ∧
    full.join awkwardTexts = "end\\\\|\\r\\n\\|||\\\\n\\\\" ∧
    full.split "end\\\\|\\r\\n\\|||\\\\n\\\\" = awkwardTexts := by
  have hne : awkwardTexts ≠ [] := by decide
  have hline : full.join awkwardTexts = "end\\\\|\\r\\n\\|||\\\\n\\\\" := by decide
  exact ⟨hne, hline, hline ▸ split_join_full.1 awkwardTexts hne⟩

/-- The empty list is written as the list of one empty text. -/
example : full.join [] = full.join [""] := by decide

/-! ## Pipe-only lines -/

@[simp] theorem length_continued (text : List Char) (fields : List (List Char)) :
    (continued text fields).length = fields.length := by
  cases fields <;> rfl

/-- **The number of fields that are read** is that of the fields that end in no backslash: each one
that does is taken in by the next, or lost with the end of the line. -/
theorem length_rejoined (fields : List (List Char)) :
    (rejoined fields).length = fields.countP fun f => ¬EndsInEscape f := by
  induction fields with
  | nil => rfl
  | cons field fields ih =>
    rw [rejoined]
    by_cases hf : EndsInEscape field
    · rw [if_pos hf, length_continued, ih, List.countP_cons_of_neg (by simpa using hf)]
    · rw [if_neg hf, List.length_cons, ih, List.countP_cons_of_pos (by simpa using hf)]

/-- Where as many fields are read as were written, none of them ends in a backslash. -/
theorem not_endsInEscape_of_length {fields : List (List Char)}
    (h : (rejoined fields).length = fields.length) : ∀ f ∈ fields, ¬EndsInEscape f := by
  have hcount := (length_rejoined fields).symm.trans h
  simpa using List.countP_eq_length.1 hcount

/-- Fields are read back where none is lost. -/
theorem rejoined_eq_self_iff {fields : List (List Char)} :
    rejoined fields = fields ↔ ∀ f ∈ fields, ¬EndsInEscape f :=
  ⟨fun h => not_endsInEscape_of_length (congrArg List.length h), rejoined_eq_self⟩

/-- **Pipe-only lines.** Of a list of texts as many are read as there are texts in it that end in no
backslash, and the list itself is read exactly if none of its texts does. -/
theorem split_join_pipeOnly {fields : List String} (h : fields ≠ []) :
    (pipeOnly.split (pipeOnly.join fields)).length =
        fields.countP (fun text => text.toList.getLast? ≠ some '\\') ∧
      (pipeOnly.split (pipeOnly.join fields) = fields ↔
        ∀ text ∈ fields, text.toList.getLast? ≠ some '\\') := by
  have hne : fields.map String.toList ≠ [] := by simpa using h
  have hread : pipeOnly.split (pipeOnly.join fields) =
      (rejoined (fields.map String.toList)).map String.ofList := by
    rw [split_join_eq, splitChars_joinChars_pipeOnly hne]
  constructor
  · rw [hread, List.length_map, length_rejoined, List.countP_map]
    rfl
  · rw [hread, map_ofList_eq_iff, rejoined_eq_self_iff, List.forall_mem_map]
    rfl

/-- Texts of which only one does not end in a backslash; it holds one right before a bar. -/
def mergingTexts : List String := ["a\\", "\\", "b\\|c", "d\\"]

theorem split_join_pipeOnly_mergingTexts : mergingTexts ≠ [] ∧
    (pipeOnly.split (pipeOnly.join mergingTexts)).length = 1 ∧
    pipeOnly.split (pipeOnly.join mergingTexts) ≠ mergingTexts := by
  have hne : mergingTexts ≠ [] := by decide
  obtain ⟨hlength, hself⟩ := split_join_pipeOnly hne
  exact ⟨hne, hlength, fun h => absurd (hself.1 h) (by decide)⟩

end ProxyControl.Dialect
