import ProxyControl.Proofs.Line.Fields
import ProxyControl.Proofs.Text.ByteLines
import ProxyControl.Store.Backend

/-!
# The records of a flat file

The records of a flat file are the lines of its bytes. Where all of them are text, the file is read
as the profiles of its records, in their order, and a record that gives no profile has no part in
the answer: another such record in its place makes no difference. One record that is no text has
the whole file refused, those with profiles included.

## Main definitions

* `records`: the lines of the bytes of a file
* `Profile.ofRecord?`: the profile of a line of bytes
* `IsLineBetween`: a line with what stands before and behind it

## Main results

* `readAll_of_read`: the profiles of a file by its records
* `readAll_records`: a malformed record in place of another
* `recordProfile_refused`: a record that is no text, behind one that is a profile
-/

set_option autoImplicit false

namespace ProxyControl

open Text

variable {dialect : Dialect}

/-! ## Profiles of records -/

/-- The lines of the bytes of a file, each with whether a line feed ends it. -/
def records (bytes : ByteArray) : List (List UInt8 × Bool) := segments 10 bytes.data.toList

/-- The profile of a line of bytes, with whether a line feed ends it: that of its text, without one
carriage return before the line feed. -/
def Profile.ofRecord? (dialect : Dialect) (record : List UInt8 × Bool) : Option Profile :=
  (decode? record.1).bind fun text =>
    ofLine? dialect (String.ofList
      (if record.2 then dropCarriageReturn text.toList else text.toList))

theorem ne_of_isBlank {c : Char} (h : isBlank c = true) : c ≠ '|' ∧ c ≠ '\\' := by
  constructor <;> rintro rfl <;> revert h <;> decide

/-- Blanks are the one field of a line that holds nothing else. -/
theorem Dialect.splitChars_of_isBlank {cs : List Char} (h : ∀ c ∈ cs, isBlank c = true) :
    dialect.splitChars cs = [cs] := by
  have hscan : dialect.scan (cs ++ ['|']) = cs.map .text ++ [.bar] := by
    induction cs with
    | nil => rfl
    | cons c cs ih =>
      obtain ⟨hbar, hescape⟩ := ne_of_isBlank (h c List.mem_cons_self)
      rw [List.cons_append, scan_plain dialect hbar hescape,
        ih fun e he => h e (List.mem_cons_of_mem c he), List.map_cons, List.cons_append]
  rw [splitChars, hscan, closedFields_map_text, List.append_nil, closedFields, closedFields,
    List.reverse_reverse]

/-- A blank line gives no profile. -/
theorem Profile.ofLine?_of_isBlank {cs : List Char} (h : cs.all isBlank = true) :
    ofLine? dialect (String.ofList cs) = none := by
  have hblank : ∀ c ∈ dropCarriageReturn cs, isBlank c = true := by
    intro c hc
    refine List.all_eq_true.1 h c ?_
    unfold dropCarriageReturn at hc
    split at hc
    · exact (List.dropLast_sublist cs).subset hc
    · exact hc
  rw [ofLine?, String.toList_ofList, Dialect.splitChars_of_isBlank hblank]
  rfl

theorem profilesOfText_eq (dialect : Dialect) (text : String) :
    profilesOfText dialect text =
      (lines text.toList).filterMap fun l => Profile.ofLine? dialect (String.ofList l) := by
  rw [profilesOfText, List.filterMap_filter]
  refine congrArg (List.filterMap · (lines text.toList)) (funext fun l => ?_)
  by_cases h : l.all isBlank = true
  · rw [Profile.ofLine?_of_isBlank h]
    simp
  · simp [h]

/-- The profiles of a text are those of the lines of its bytes. -/
theorem filterMap_segments_encode (dialect : Dialect) (text : String) :
    (segments 10 (encode text.toList)).filterMap (Profile.ofRecord? dialect) =
      profilesOfText dialect text := by
  rw [profilesOfText_eq, lines, segments_encode, List.filterMap_map, List.filterMap_map]
  refine congrArg (List.filterMap · (segments '\n' text.toList)) (funext fun s => ?_)
  simp [Profile.ofRecord?, decode?_encode]

/-- **The profiles of a flat file are those of its records**, in their order, where all of them are
text. Otherwise the file is not read. -/
theorem readAll_of_read (dialect : Dialect) {path : FilePath} {d : Disk} {bytes : ByteArray}
    (h : (d.read path).1 = .ok bytes) :
    ((flatFile path dialect).readAll d).1 =
      if ∀ r ∈ records bytes, (decode? r.1).isSome = true then
        .ok ((records bytes).filterMap (Profile.ofRecord? dialect))
      else .error (.io path.shown "read" .notUtf8) := by
  rcases hd : d.read path with ⟨answer, e⟩
  rw [hd] at h
  obtain rfl : answer = .ok bytes := h
  have hrecords : (decode? bytes.data.toList).isSome = true ↔
      ∀ r ∈ records bytes, (decode? r.1).isSome = true := isSome_decode?_iff
  have hdecode : decode? bytes.data.toList = String.fromUTF8? bytes := rfl
  cases ht : String.fromUTF8? bytes with
  | none =>
    rw [hdecode, ht] at hrecords
    rw [if_neg (mt hrecords.2 Bool.false_ne_true)]
    simp only [flatFile, DocumentFile.readText, hd, ht]
  | some text =>
    have hbytes := decode?_eq_some_iff.1 (hdecode.trans ht)
    rw [hdecode, ht] at hrecords
    rw [if_pos (hrecords.1 rfl), records, ← hbytes, filterMap_segments_encode]
    simp only [flatFile, DocumentFile.readText, hd, ht]

/-! ## Malformed records -/

/-- Whether a record is text that gives no profile. -/
def IsMalformed (dialect : Dialect) (record : List UInt8 × Bool) : Prop :=
  (decode? record.1).isSome = true ∧ Profile.ofRecord? dialect record = none

/-- Whether bytes are one whole line where others stand before and behind them. -/
structure IsLineBetween (front line back : List UInt8) : Prop where
  single : 10 ∉ line
  starts : front = [] ∨ front.getLast? = some 10
  ends : back = [] ∨ ∃ rest, back = 10 :: rest

variable {front line other back : List UInt8}

theorem IsLineBetween.segments_eq (h : IsLineBetween front line back) :
    segments 10 (front ++ (line ++ back)) = segments 10 front ++
      ((if line = [] ∧ back = [] then [] else [(line, !back.isEmpty)]) ++
        segments 10 back.tail) := by
  rw [segments_append h.starts]
  rcases h.ends with rfl | ⟨rest, rfl⟩
  · rw [List.append_nil, segments_of_notMem h.single]
    by_cases hl : line = [] <;> simp [hl, segments_of_notMem]
  · rw [segments_append_cons h.single]
    simp

/-- A malformed record has no part in what is read: only the lines before and behind it have. -/
theorem readAll_of_isMalformed {path : FilePath} {d : Disk} (h : IsLineBetween front line back)
    (hm : IsMalformed dialect (line, !back.isEmpty))
    (hr : (d.read path).1 = .ok ⟨(front ++ (line ++ back)).toArray⟩) :
    ((flatFile path dialect).readAll d).1 =
      if ∀ r ∈ segments 10 front ++ segments 10 back.tail, (decode? r.1).isSome = true then
        .ok ((segments 10 front ++ segments 10 back.tail).filterMap (Profile.ofRecord? dialect))
      else .error (.io path.shown "read" .notUtf8) := by
  rw [readAll_of_read dialect hr, records, h.segments_eq]
  by_cases hn : line = [] ∧ back = []
  · rw [if_pos hn, List.nil_append]
  · rw [if_neg hn]
    simp only [List.forall_mem_append, List.forall_mem_singleton, hm.1, true_and,
      List.filterMap_append, List.filterMap_cons_none hm.2, List.filterMap_nil, List.nil_append]

/-- **A malformed record never hides another record, as long as it is text.** A flat file whose
records are all text is read as their profiles, in their order, and a malformed record can stand in
place of another one. A file with a record that is no text is refused as a whole. -/
theorem readAll_records (dialect : Dialect) {path : FilePath} {d : Disk} {bytes : ByteArray}
    (hr : (d.read path).1 = .ok bytes) :
    (((flatFile path dialect).readAll d).1 =
      if ∀ r ∈ records bytes, (decode? r.1).isSome = true then
        .ok ((records bytes).filterMap (Profile.ofRecord? dialect))
      else .error (.io path.shown "read" .notUtf8)) ∧
    ∀ (front line other back : List UInt8) (e : Disk),
      bytes.data.toList = front ++ (line ++ back) →
      (e.read path).1 = .ok ⟨(front ++ (other ++ back)).toArray⟩ →
      IsLineBetween front line back → IsLineBetween front other back →
      IsMalformed dialect (line, !back.isEmpty) → IsMalformed dialect (other, !back.isEmpty) →
      ((flatFile path dialect).readAll e).1 = ((flatFile path dialect).readAll d).1 := by
  refine ⟨readAll_of_read dialect hr, ?_⟩
  intro front line other back e hbytes he hline hother hm hm'
  have hr' : (d.read path).1 = .ok ⟨(front ++ (line ++ back)).toArray⟩ := by
    rw [hr, ← hbytes]
  rw [readAll_of_isMalformed hother hm' he, readAll_of_isMalformed hline hm hr']

def recordFile : FilePath := ⟨"o", []⟩

/-- A file with the line of a profile, and another line behind it. -/
def recordTree (line : List UInt8) : FileTree :=
  .directory [("o", .file ⟨(encode "h:1|:1|k|u|p|0|1|1\n".toList ++ (line ++ [10])).toArray⟩)]

def recordProfile : Profile :=
  { Profile.new "h:1" with
    localAddr := ":1", key := "k", authUser := "u", authPass := "p", udpPort := 1, udpTcpFactor := 1 }

/-- Too few fields, and a number that is none, behind the line of the profile. -/
theorem readAll_records_recordTree :
    ((flatFile recordFile .pipeOnly).readAll (.ofTree (recordTree (encode "a|b".toList)))).1 =
        .ok [recordProfile] ∧
      ((flatFile recordFile .pipeOnly).readAll
          (.ofTree (recordTree (encode "a|:1|k|u|p|0|x|1".toList)))).1 = .ok [recordProfile] := by
  have hread (line : List UInt8) : (Disk.read recordFile (.ofTree (recordTree line))).1 =
      .ok ⟨(encode "h:1|:1|k|u|p|0|1|1\n".toList ++ (line ++ [10])).toArray⟩ := rfl
  have hline (l : List UInt8) (hl : 10 ∉ l) :
      IsLineBetween (encode "h:1|:1|k|u|p|0|1|1\n".toList) l [10] :=
    ⟨hl, .inr (by decide +kernel), .inr ⟨[], rfl⟩⟩
  obtain ⟨hone, hother⟩ := readAll_records .pipeOnly (hread (encode "a|b".toList))
  rw [if_pos (by decide +kernel)] at hone
  have hprofiles : (records ⟨(encode "h:1|:1|k|u|p|0|1|1\n".toList ++
      (encode "a|b".toList ++ [10])).toArray⟩).filterMap (Profile.ofRecord? .pipeOnly) =
        [recordProfile] := by decide +kernel
  rw [hprofiles] at hone
  refine ⟨hone, (hother _ _ _ _ _ rfl (hread _) (hline _ (by decide +kernel))
    (hline _ (by decide +kernel)) ⟨?_, ?_⟩ ⟨?_, ?_⟩).trans hone⟩ <;> decide +kernel

/-- A byte that is no text has the whole file refused, whose first line gives a profile. -/
theorem recordProfile_refused :
    ∃ bytes, (recordTree [255]).read? recordFile = .ok bytes ∧
      (records bytes).filterMap (Profile.ofRecord? .pipeOnly) = [recordProfile] ∧
      ((flatFile recordFile .pipeOnly).readAll (.ofTree (recordTree [255]))).1 =
        .error (.io "o" "read" .notUtf8) := by
  refine ⟨_, rfl, by decide +kernel, ?_⟩
  rw [readAll_of_read .pipeOnly rfl, if_neg (by decide +kernel)]
  rfl

end ProxyControl
