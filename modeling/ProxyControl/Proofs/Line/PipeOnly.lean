import ProxyControl.Proofs.Line.RoundTrip

/-!
# Profiles read back from pipe-only lines

In the pipe-only dialect a backslash is plain wherever it stands, except right before a bar, where
it makes the bar one of its field. No field holds a bare bar, so this can go wrong in one place
only: a field that ends in a backslash takes in the bar after it and goes on with the next field, or
is lost where there is no next one. What is read then differs from what was written in that very
field, so no line that is misread gives its profile back by accident.

A carriage return at the end of a line is not one of it, so a domain loses one that it ends in.

## Main definitions

* `Dialect.rejoined`: the fields that are read for some that were written

## Main results

* `Dialect.splitChars_joinChars_pipeOnly`: these are the fields of a pipe-only line
* `Dialect.take_rejoined_iff`: fields are read back up to the first that ends in a backslash
* `Profile.ofLine?_toLine_pipeOnly`: the profiles that read back from their lines
-/

set_option autoImplicit false

namespace ProxyControl

namespace Dialect

/-! ## Fields of pipe-only lines -/

/-- Whether a field takes in the bar that is written after it. -/
def EndsInEscape (field : List Char) : Prop := field.getLast? = some '\\'

instance (field : List Char) : Decidable (EndsInEscape field) :=
  inferInstanceAs (Decidable (field.getLast? = some '\\'))

/-- Fields of which the first starts with some more text. -/
def continued (text : List Char) : List (List Char) → List (List Char)
  | [] => []
  | field :: fields => (text ++ field) :: fields

/-- The fields that are read for some that were written. -/
def rejoined : List (List Char) → List (List Char)
  | [] => []
  | field :: fields =>
    if EndsInEscape field then continued (field.dropLast ++ ['|']) (rejoined fields)
    else field :: rejoined fields

/-- What was read of a field before is the start of the first field that is closed. -/
theorem closedFields_eq_continued (field : List Char) (ts : List Token) :
    closedFields field ts = continued field.reverse (closedFields [] ts) := by
  induction ts generalizing field with
  | nil => rfl
  | cons t ts ih =>
    cases t with
    | bar => simp [closedFields, continued]
    | text c =>
      rw [closedFields, ih (c :: field), closedFields, ih [c]]
      cases closedFields [] ts <;> simp [continued]

theorem escapeChars_cons (d : Dialect) (c : Char) (cs : List Char) :
    d.escapeChars (c :: cs) = d.escapeChar c ++ d.escapeChars cs := rfl

/-- What a character is written as starts with no bar. -/
theorem exists_escapeChar_eq_cons (c : Char) :
    ∃ e rest, pipeOnly.escapeChar c = e :: rest ∧ e ≠ '|' := by
  by_cases hb : c = '|'
  · exact ⟨'\\', ['|'], by rw [hb]; rfl, by decide⟩
  · exact ⟨c, [], by simp [escapeChar, hb], hb⟩

/-- A character of a field is read on its own, unless it is a backslash at the end of the field. -/
theorem scan_pipeOnly_cons {c : Char} {field : List Char} (h : c = '\\' → field ≠ [])
    (rest : List Char) :
    pipeOnly.scan (pipeOnly.escapeChars (c :: field) ++ '|' :: rest) =
      .text c :: pipeOnly.scan (pipeOnly.escapeChars field ++ '|' :: rest) := by
  rw [escapeChars_cons, List.append_assoc]
  by_cases hb : c = '|'
  · subst hb
    exact scan_escapedBar pipeOnly _
  have hc : pipeOnly.escapeChar c = [c] := by simp [escapeChar, hb]
  rw [hc, List.singleton_append]
  by_cases he : c = '\\'
  · subst he
    obtain ⟨a, field, rfl⟩ := List.exists_cons_of_ne_nil (h rfl)
    obtain ⟨e, written, ha, hne⟩ := exists_escapeChar_eq_cons a
    rw [escapeChars_cons, ha]
    exact scan_pipeOnly_backslash hne _
  · exact scan_plain pipeOnly hb he _

theorem endsInEscape_cons {c : Char} {field : List Char} (h : c = '\\' → field ≠ []) :
    EndsInEscape (c :: field) ↔ EndsInEscape field := by
  cases field with
  | nil => simpa [EndsInEscape] using h
  | cons a field => simp [EndsInEscape]

/-- The tokens of a field that is written with a bar after it. -/
theorem scan_pipeOnly_field (field rest : List Char) :
    pipeOnly.scan (pipeOnly.escapeChars field ++ '|' :: rest) =
      if EndsInEscape field then
        (field.dropLast ++ ['|']).map .text ++ pipeOnly.scan rest
      else field.map .text ++ .bar :: pipeOnly.scan rest := by
  induction field with
  | nil => exact scan_bar pipeOnly rest
  | cons c field ih =>
    by_cases hlast : c = '\\' → field ≠ []
    · rw [scan_pipeOnly_cons hlast, ih]
      by_cases hf : EndsInEscape field
      · have hne : field ≠ [] := by
          rintro rfl
          cases hf
        rw [if_pos hf, if_pos ((endsInEscape_cons hlast).2 hf), List.dropLast_cons_of_ne_nil hne]
        rfl
      · rw [if_neg hf, if_neg (mt (endsInEscape_cons hlast).1 hf)]
        rfl
    -- a backslash right before the bar makes the bar one of the field
    · obtain ⟨rfl, hnil⟩ := Classical.not_imp.1 hlast
      obtain rfl := Decidable.not_not.1 hnil
      exact scan_escapedBar pipeOnly rest

theorem closedFields_scan_pipeOnly (fields : List (List Char)) :
    closedFields [] (pipeOnly.scan (fields.flatMap fun f => pipeOnly.escapeChars f ++ ['|'])) =
      rejoined fields := by
  induction fields with
  | nil => rfl
  | cons field fields ih =>
    rw [List.flatMap_cons, List.append_assoc, List.singleton_append, scan_pipeOnly_field, rejoined]
    split
    · rw [closedFields_map_text, List.append_nil, closedFields_eq_continued, ih,
        List.reverse_reverse]
    · rw [closedFields_map_text, List.append_nil, closedFields, ih, List.reverse_reverse]

/-- **The fields of a pipe-only line**: one that ends in a backslash goes on with the next. -/
theorem splitChars_joinChars_pipeOnly {fields : List (List Char)} (h : fields ≠ []) :
    pipeOnly.splitChars (pipeOnly.joinChars fields) = rejoined fields := by
  rw [splitChars, joinChars_append_bar pipeOnly h, closedFields_scan_pipeOnly]

/-- Two fields become one, and the last one is lost. -/
example : pipeOnly.split (pipeOnly.join ["a\\", "b\\c", "d\\"]) = ["a|b\\c"] := by decide

/-! ## Fields that are read back -/

theorem rejoined_append {fields : List (List Char)} (h : ∀ f ∈ fields, ¬EndsInEscape f)
    (later : List (List Char)) : rejoined (fields ++ later) = fields ++ rejoined later := by
  induction fields with
  | nil => rfl
  | cons field fields ih =>
    rw [List.cons_append, rejoined, if_neg (h field List.mem_cons_self),
      ih fun f hf => h f (List.mem_cons_of_mem field hf), List.cons_append]

theorem rejoined_eq_self {fields : List (List Char)} (h : ∀ f ∈ fields, ¬EndsInEscape f) :
    rejoined fields = fields := by
  have happend := rejoined_append h []
  rwa [List.append_nil, rejoined, List.append_nil] at happend

/-- A field that goes on with the next is not read back: it has a bar where the backslash was. -/
theorem headD_continued_ne {field : List Char} (h : EndsInEscape field)
    (fields : List (List Char)) :
    (continued (field.dropLast ++ ['|']) fields).headD [] ≠ field := by
  obtain ⟨init, rfl⟩ := List.getLast?_eq_some_iff.1 h
  rw [List.dropLast_concat]
  cases fields with
  | nil => simp [continued]
  | cons next fields => simp [continued]

theorem headD_rejoined_iff {field : List Char} {fields : List (List Char)} :
    (rejoined (field :: fields)).headD [] = field ↔ ¬EndsInEscape field := by
  rw [rejoined]
  by_cases hf : EndsInEscape field
  · rw [if_pos hf]
    exact iff_of_false (headD_continued_ne hf _) (not_not_intro hf)
  · rw [if_neg hf]
    exact iff_of_true rfl hf

theorem headD_take_succ (n : Nat) (fields : List (List Char)) :
    (fields.take (n + 1)).headD [] = fields.headD [] := by
  cases fields <;> rfl

/-- **Fields are read back up to the first that ends in a backslash.** -/
theorem take_rejoined_iff {n : Nat} {fields : List (List Char)} :
    (rejoined fields).take n = fields.take n ↔ ∀ f ∈ fields.take n, ¬EndsInEscape f := by
  induction n generalizing fields with
  | zero => simp
  | succ n ih =>
    cases fields with
    | nil => simp [rejoined]
    | cons field fields =>
      rw [List.take_succ_cons, List.forall_mem_cons]
      by_cases hf : EndsInEscape field
      · refine iff_of_false (fun htake => ?_) fun h => h.1 hf
        have hhead : (rejoined (field :: fields)).headD [] = field := by
          have h := congrArg (List.headD · []) htake
          rwa [List.headD_cons, headD_take_succ] at h
        exact headD_rejoined_iff.1 hhead hf
      · rw [rejoined, if_neg hf, List.take_succ_cons, List.cons_inj_right, ih]
        exact (and_iff_right hf).symm

/-! ## Ends of lines -/

theorem escapeChars_append (d : Dialect) (cs ds : List Char) :
    d.escapeChars (cs ++ ds) = d.escapeChars cs ++ d.escapeChars ds := List.flatMap_append

/-- What a field is written as ends in the last character of the field. -/
theorem getLast?_escapeChars (field : List Char) :
    (pipeOnly.escapeChars field).getLast? = field.getLast? := by
  rcases List.eq_nil_or_concat field with rfl | ⟨init, c, rfl⟩
  · rfl
  · have hc : (pipeOnly.escapeChar c).getLast? = some c := by
      by_cases hb : c = '|'
      · rw [hb]
        rfl
      · simp [escapeChar, hb]
    have hone : pipeOnly.escapeChars [c] = pipeOnly.escapeChar c := List.append_nil _
    rw [List.concat_eq_append, escapeChars_append, hone, List.getLast?_append, hc,
      List.getLast?_concat]
    rfl

theorem joinChars_concat (d : Dialect) (fields : List (List Char)) (last : List Char) :
    d.joinChars (fields ++ [last]) =
      (fields.flatMap fun f => d.escapeChars f ++ ['|']) ++ d.escapeChars last := by
  have hbar := d.joinChars_append_bar (List.append_ne_nil_of_right_ne_nil fields
    (List.cons_ne_nil last []))
  rw [List.flatMap_append, List.flatMap_singleton, ← List.append_assoc] at hbar
  exact List.append_cancel_right hbar

/-- A carriage return at the end of a line is the end of its last field. -/
theorem dropCarriageReturn_joinChars {fields : List (List Char)} (h : fields ≠ [])
    (last : List Char) :
    Text.dropCarriageReturn (pipeOnly.joinChars (fields ++ [last])) =
      pipeOnly.joinChars (fields ++ [Text.dropCarriageReturn last]) := by
  rw [joinChars_concat, joinChars_concat]
  by_cases hr : last.getLast? = some '\r'
  · obtain ⟨init, rfl⟩ := List.getLast?_eq_some_iff.1 hr
    have hlast : pipeOnly.escapeChars (init ++ ['\r']) = pipeOnly.escapeChars init ++ ['\r'] :=
      escapeChars_append pipeOnly init ['\r']
    rw [hlast, ← List.append_assoc, Text.dropCarriageReturn_append, Text.dropCarriageReturn_append]
  · have hfields : (fields.flatMap fun f => pipeOnly.escapeChars f ++ ['|']).getLast? =
        some '|' := by
      obtain ⟨init, f, rfl⟩ := (List.eq_nil_or_concat fields).resolve_left h
      rw [List.concat_eq_append, List.flatMap_append, List.flatMap_singleton, ← List.append_assoc,
        List.getLast?_concat]
    rw [Text.dropCarriageReturn, if_neg, Text.dropCarriageReturn, if_neg hr]
    rw [List.getLast?_append, getLast?_escapeChars, hfields]
    cases hlast : last.getLast? with
    | none => decide
    | some c => rwa [hlast] at hr

end Dialect

namespace Profile

open Dialect Text

/-! ## Profiles on pipe-only lines -/

/-- The fields of a profile's line before its domain. -/
def frontFields (p : Profile) : List (List Char) :=
  [p.serverAddr.toList, p.localAddr.toList, p.key.toList, p.authUser.toList, p.authPass.toList,
    [if p.isPartial then '1' else '0'], decimal p.udpPort.toNat, decimal p.udpTcpFactor.toNat]

theorem lineFields_eq (p : Profile) :
    p.lineFields = p.frontFields ++ if p.domain = "" then [] else [p.domain.toList] := rfl

/-- The field of the domain, where there is one, without a carriage return at its end. -/
def domainFields (p : Profile) : List (List Char) :=
  if p.domain = "" then [] else [dropCarriageReturn p.domain.toList]

theorem not_endsInEscape_decimal (n : Nat) : ¬EndsInEscape (decimal n) := by
  intro h
  exact absurd (isDigit_of_mem_decimal (List.mem_of_getLast? h)) (by decide)

/-- The profile of a pipe-only line is that of its fields. -/
theorem ofLine?_toLine_pipeOnly_eq (p : Profile) :
    ofLine? .pipeOnly (p.toLine .pipeOnly) =
      ofFields? (rejoined (p.frontFields ++ p.domainFields)) := by
  have hdrop : dropCarriageReturn (pipeOnly.joinChars p.lineFields) =
      pipeOnly.joinChars (p.frontFields ++ p.domainFields) := by
    rw [lineFields_eq, domainFields]
    by_cases hd : p.domain = ""
    · have hnone : '\r' ∉ decimal p.udpTcpFactor.toNat := fun h =>
        absurd (isDigit_of_mem_decimal h) (by decide)
      have hlast : p.frontFields =
          p.frontFields.dropLast ++ [decimal p.udpTcpFactor.toNat] := rfl
      have hne : p.frontFields.dropLast ≠ [] := List.cons_ne_nil _ _
      rw [if_pos hd, if_pos hd, List.append_nil, hlast, dropCarriageReturn_joinChars hne,
        dropCarriageReturn_of_notMem hnone]
    · rw [if_neg hd, if_neg hd]
      exact dropCarriageReturn_joinChars (List.cons_ne_nil _ _) _
  have hne : p.frontFields ++ p.domainFields ≠ [] := List.cons_ne_nil _ _
  rw [ofLine?, toLine, String.toList_ofList, hdrop, splitChars_joinChars_pipeOnly hne]

/-- What is read as a profile has its texts as fields. -/
theorem of_ofFields?_eq_some {fields : List (List Char)} {p : Profile}
    (h : ofFields? fields = some p) :
    p.serverAddr ≠ "" ∧ fields.take 5 = p.frontFields.take 5 ∧
      (fields.drop 8).headD [] = p.domain.toList := by
  unfold ofFields? at h
  split at h
  · split at h
    · split at h
      · cases h
      · next hserver =>
        obtain rfl := Option.some.inj h
        refine ⟨fun hempty => hserver ?_, ?_, ?_⟩
        · simpa using congrArg String.toList hempty
        · simp [frontFields]
        · simp
    · cases h
  · cases h

theorem forall_frontFields_iff {p : Profile} :
    (∀ f ∈ p.frontFields, ¬EndsInEscape f) ↔ ∀ f ∈ p.frontFields.take 5, ¬EndsInEscape f := by
  refine ⟨fun h f hf => h f (List.mem_of_mem_take hf), fun h f hf => ?_⟩
  rw [← List.take_append_drop 5 p.frontFields, List.mem_append] at hf
  rcases hf with hf | hf
  · exact h f hf
  · simp only [frontFields, List.drop_succ_cons, List.drop_zero, List.mem_cons, List.not_mem_nil,
      or_false] at hf
    rcases hf with rfl | rfl | rfl
    · cases p.isPartial <;> decide
    · exact not_endsInEscape_decimal _
    · exact not_endsInEscape_decimal _

/-- The domain reads back unless it ends in a backslash or a carriage return. -/
theorem headD_domainFields_iff (p : Profile) :
    (rejoined p.domainFields).headD [] = p.domain.toList ↔
      ¬EndsInEscape p.domain.toList ∧ p.domain.toList.getLast? ≠ some '\r' := by
  rw [domainFields]
  by_cases hd : p.domain = ""
  · simp [hd, rejoined, EndsInEscape]
  rw [if_neg hd]
  by_cases hr : p.domain.toList.getLast? = some '\r'
  · refine iff_of_false (fun h => ?_) fun h => h.2 hr
    obtain ⟨init, hinit⟩ := List.getLast?_eq_some_iff.1 hr
    rw [hinit, dropCarriageReturn_append, rejoined] at h
    have hlen := congrArg List.length h
    split at hlen <;> simp [rejoined, continued] at hlen
  · rw [dropCarriageReturn, if_neg hr, headD_rejoined_iff]
    exact (and_iff_left hr).symm

/-- **Pipe-only lines.** A profile reads back from its line exactly if it has a server, none of its
texts ends in a backslash, and its domain does not end in a carriage return. -/
theorem ofLine?_toLine_pipeOnly (p : Profile) :
    ofLine? .pipeOnly (p.toLine .pipeOnly) = some p ↔
      p.serverAddr ≠ "" ∧
      (∀ text ∈ [p.serverAddr, p.localAddr, p.key, p.authUser, p.authPass, p.domain],
        text.toList.getLast? ≠ some '\\') ∧
      p.domain.toList.getLast? ≠ some '\r' := by
  have htexts : (∀ text ∈ [p.serverAddr, p.localAddr, p.key, p.authUser, p.authPass, p.domain],
      text.toList.getLast? ≠ some '\\') ↔
      (∀ f ∈ p.frontFields.take 5, ¬EndsInEscape f) ∧ ¬EndsInEscape p.domain.toList := by
    simp [frontFields, EndsInEscape, and_assoc]
  rw [ofLine?_toLine_pipeOnly_eq, htexts]
  constructor
  · intro h
    obtain ⟨hserver, hfirst, hdomain⟩ := of_ofFields?_eq_some h
    have hfront : ∀ f ∈ p.frontFields.take 5, ¬EndsInEscape f := by
      have htake : (p.frontFields ++ p.domainFields).take 5 = p.frontFields.take 5 := rfl
      rw [← htake]
      exact take_rejoined_iff.1 (hfirst.trans htake.symm)
    rw [rejoined_append (forall_frontFields_iff.2 hfront)] at hdomain
    obtain ⟨hescape, hreturn⟩ := (headD_domainFields_iff p).1 hdomain
    exact ⟨hserver, ⟨hfront, hescape⟩, hreturn⟩
  · rintro ⟨hserver, ⟨hfront, hescape⟩, hreturn⟩
    have hfields : p.frontFields ++ p.domainFields = p.lineFields := by
      rw [lineFields_eq, domainFields, dropCarriageReturn, if_neg hreturn]
    have hself : rejoined p.lineFields = p.lineFields := by
      refine rejoined_eq_self fun f hf => ?_
      rw [lineFields_eq, List.mem_append] at hf
      rcases hf with hf | hf
      · exact forall_frontFields_iff.2 hfront f hf
      · split at hf
        · cases hf
        · rwa [List.mem_singleton.1 hf]
    rw [hfields, hself, ofFields?_lineFields, if_neg hserver]

end Profile

end ProxyControl
