import ProxyControl.Engine.Child
import ProxyControl.Proofs.Text.Boundaries
import ProxyControl.Proofs.Text.Decoding
import Mathlib.Data.List.DropRight
import Mathlib.Data.List.Forall2

/-!
# What output is recorded as

The reader of a pipe holds the line that it is in, so the lines that it finds are those that the
bytes are cut into at their line feeds, wherever one read ends and the next one begins. The line
feed of a line is read as a character of its own, which is dropped with the other line ends. What is
left is recorded up to the last place between characters within the limit.

## Main definitions

* `IsCutInto`: the lines of bytes that line feeds end, and what is behind them
* `IsRecordOf`: the text that a line is recorded as
* `ChildEngine.readToEnd`: the output of a child read in pieces, from two pipes in turn

## Main results

* `LineReader.linesOf_initial`: the lines do not depend on the pieces
* `exists_isRecordOf_iff`: what a line is recorded as
* `ChildEngine.recorded_readToEnd`: the records of all output
-/

set_option autoImplicit false

namespace ProxyControl

open Text

/-! ## Lines of bytes -/

/-- How bytes are cut into the lines that line feeds end, and what is behind the last of them. -/
structure IsCutInto (bytes : List UInt8) (ended : List (List UInt8)) (rest : List UInt8) :
    Prop where
  eq : bytes = ended.flatMap (· ++ [10]) ++ rest
  notMem_ended : ∀ line ∈ ended, 10 ∉ line
  notMem_rest : 10 ∉ rest

/-- All lines: a rest is one where it is not empty. -/
def allLines (ended : List (List UInt8)) (rest : List UInt8) : List (List UInt8) :=
  ended ++ if rest = [] then [] else [rest]

theorem exists_isCutInto (bytes : List UInt8) : ∃ ended rest, IsCutInto bytes ended rest := by
  induction bytes using segments_induction (10 : UInt8) with
  | last rest hrest => exact ⟨[], rest, rfl, fun _ h => absurd h List.not_mem_nil, hrest⟩
  | segment line bytes hline ih =>
    obtain ⟨ended, rest, h⟩ := ih
    refine ⟨line :: ended, rest, ?_, List.forall_mem_cons.2 ⟨hline, h.notMem_ended⟩, h.notMem_rest⟩
    rw [List.flatMap_cons, List.append_assoc, List.append_assoc, ← h.eq, List.singleton_append]

namespace LineReader

variable (r : LineReader)

theorem feedFrom_eq (done : List (List UInt8)) (pending bytes : List UInt8) :
    feedFrom done pending bytes =
      (done.reverse ++ (feedFrom [] pending bytes).1, (feedFrom [] pending bytes).2) := by
  induction bytes generalizing done pending with
  | nil => simp [feedFrom]
  | cons b bytes ih =>
    rw [feedFrom, feedFrom]
    split
    · rw [ih (_ :: done), ih [_]]
      simp
    · exact ih done (b :: pending)

theorem feed_nil : r.feed [] = ([], r) := rfl

theorem feed_lineFeed_cons (bytes : List UInt8) :
    r.feed (10 :: bytes) =
      ((10 :: r.pending).reverse :: (initial.feed bytes).1, (initial.feed bytes).2) := by
  rw [feed, feedFrom, if_pos rfl, feedFrom_eq]
  rfl

theorem feed_cons_of_ne {b : UInt8} (h : b ≠ 10) (bytes : List UInt8) :
    r.feed (b :: bytes) = feed ⟨b :: r.pending⟩ bytes := by
  rw [feed, feedFrom, if_neg h]
  rfl

/-- Bytes that come in two pieces complete the lines that they complete as one. -/
theorem feed_append (xs ys : List UInt8) :
    r.feed (xs ++ ys) =
      ((r.feed xs).1 ++ ((r.feed xs).2.feed ys).1, ((r.feed xs).2.feed ys).2) := by
  induction xs generalizing r with
  | nil => rfl
  | cons b xs ih =>
    rw [List.cons_append]
    by_cases hb : b = 10
    · subst hb
      simp only [feed_lineFeed_cons, ih, List.cons_append]
    · simp only [feed_cons_of_ne r hb, ih]

theorem linesOf_eq (pieces : List (List UInt8)) :
    r.linesOf pieces = (r.feed pieces.flatten).1 ++ (r.feed pieces.flatten).2.finish := by
  induction pieces generalizing r with
  | nil => rfl
  | cons piece pieces ih => rw [linesOf, ih, List.flatten_cons, feed_append, List.append_assoc]

/-- Bytes without line feeds go on with the line. -/
theorem feed_append_of_notMem {line : List UInt8} (h : 10 ∉ line) (bytes : List UInt8) :
    r.feed (line ++ bytes) = feed ⟨line.reverse ++ r.pending⟩ bytes := by
  induction line generalizing r with
  | nil => rfl
  | cons b line ih =>
    obtain ⟨hb, hline⟩ := List.ne_and_not_mem_of_not_mem_cons h
    rw [List.cons_append, feed_cons_of_ne r hb.symm, ih _ hline]
    simp

theorem feed_initial {bytes : List UInt8} {ended : List (List UInt8)} {rest : List UInt8}
    (h : IsCutInto bytes ended rest) :
    initial.feed bytes = (ended.map (· ++ [10]), ⟨rest.reverse⟩) := by
  obtain ⟨rfl, hended, hrest⟩ := h
  induction ended with
  | nil =>
    have hfeed := feed_append_of_notMem initial hrest []
    rw [List.append_nil] at hfeed
    rw [List.flatMap_nil, List.nil_append, hfeed, feed_nil]
    simp [initial]
  | cons line ended ih =>
    obtain ⟨hline, hended⟩ := List.forall_mem_cons.1 hended
    rw [List.flatMap_cons, List.append_assoc, List.append_assoc, List.singleton_append,
      feed_append_of_notMem initial hline, feed_lineFeed_cons, ih hended]
    simp [initial]

/-- **The lines do not depend on the pieces:** they are those that the bytes are cut into, the ended
ones with their line feeds. -/
theorem linesOf_initial {pieces : List (List UInt8)} {ended : List (List UInt8)}
    {rest : List UInt8} (h : IsCutInto pieces.flatten ended rest) :
    initial.linesOf pieces = allLines (ended.map (· ++ [10])) rest := by
  rw [linesOf_eq, feed_initial h]
  simp [finish, allLines]

end LineReader

example : LineReader.initial.linesOf [[104, 105], [13, 10, 10], [111]] =
    [[104, 105, 13, 10], [10], [111]] := by decide

/-! ## The text of a line -/

/-- Whether a text is what a line is recorded as, of which `kept` is left when the line end has been
dropped. -/
structure IsRecordOf (line : List UInt8) (kept : List Char) (text : String) : Prop where
  /-- What is dropped from the end are carriage returns and line feeds. -/
  isReadAs : ∃ dropped, IsReadAs line (kept ++ dropped) ∧ ∀ c ∈ dropped, c = '\r' ∨ c = '\n'
  /-- No more of them are left at the end. -/
  getLast?_kept : ∀ c ∈ kept.getLast?, ¬(c = '\r' ∨ c = '\n')
  isLongest : IsLongestWithin 2047 (String.ofList kept) text
  eq_of_le : (String.ofList kept).utf8ByteSize ≤ 2047 → text = String.ofList kept
  /-- The search for the place to cut ends in the text and between characters. -/
  search : 2047 < (String.ofList kept).utf8ByteSize →
    boundaryUpTo (String.ofList kept) 2047 ≤ 2047 ∧
      String.Pos.Raw.isValid (String.ofList kept) ⟨boundaryUpTo (String.ofList kept) 2047⟩ = true ∧
      text.utf8ByteSize = boundaryUpTo (String.ofList kept) 2047
  /-- It does not go far. -/
  lt_add_four : 2047 < (String.ofList kept).utf8ByteSize → 2047 < text.utf8ByteSize + 4

theorem isLineEnd_iff {c : Char} : isLineEnd c = true ↔ c = '\r' ∨ c = '\n' := by
  simp [isLineEnd]

/-- The line feed at the end of a line is one of the characters that are dropped. -/
theorem lineText_append_lineFeed (line : List UInt8) : lineText (line ++ [10]) = lineText line := by
  have hdrop : dropEndWhile isLineEnd (lossyChars line ++ ['\n']) =
      dropEndWhile isLineEnd (lossyChars line) := List.rdropWhile_concat_pos _ _ _ rfl
  rw [lineText, lossyChars_append_lineFeed, lossyChars_nil, hdrop, lineText]

theorem isRecordOf_lineText (line : List UInt8) :
    IsRecordOf line (dropEndWhile isLineEnd (lossyChars line)) (lineText line) where
  isReadAs := by
    refine ⟨(lossyChars line).rtakeWhile isLineEnd, ?_, fun c hc => ?_⟩
    · exact isReadAs_iff.2 List.rdropWhile_append_rtakeWhile.symm
    · exact isLineEnd_iff.1 (List.mem_rtakeWhile_imp hc)
  getLast?_kept c hc := by
    obtain ⟨hne, rfl⟩ := List.mem_getLast?_eq_getLast hc
    exact mt isLineEnd_iff.2 (List.rdropWhile_last_not _ _ hne)
  isLongest := isLongestWithin_takeUtf8 _ _
  eq_of_le := takeUtf8_of_le
  search h := ⟨boundaryUpTo_le _ _, isValid_boundaryUpTo _ _, (takeUtf8_of_lt h).2⟩
  lt_add_four h := by
    have hsize : (lineText line).utf8ByteSize = boundaryUpTo _ 2047 := (takeUtf8_of_lt h).2
    rw [hsize]
    exact lt_boundaryUpTo_add_four h.le

/-- What is left of a line is told by its bytes. -/
theorem IsRecordOf.kept_eq {line : List UInt8} {kept : List Char} {text : String}
    (h : IsRecordOf line kept text) : kept = dropEndWhile isLineEnd (lossyChars line) := by
  obtain ⟨dropped, hread, hdropped⟩ := h.isReadAs
  have hends : ∀ c ∈ dropped.reverse, isLineEnd c = true :=
    fun c hc => isLineEnd_iff.2 (hdropped c (List.mem_reverse.1 hc))
  have hkept : kept.rdropWhile isLineEnd = kept := by
    refine List.rdropWhile_eq_self_iff.2 fun hne hlast => ?_
    exact h.getLast?_kept _ (List.getLast?_eq_some_getLast hne) (isLineEnd_iff.1 hlast)
  rw [isReadAs_iff.1 hread, dropEndWhile, List.reverse_append, List.dropWhile_append_of_pos hends]
  exact hkept.symm

/-- **What a line is recorded as,** and nothing else. -/
theorem exists_isRecordOf_iff {line : List UInt8} {text : String} :
    (∃ kept, IsRecordOf line kept text) ↔ lineText line = text := by
  constructor
  · rintro ⟨kept, h⟩
    obtain rfl := h.kept_eq
    exact (isRecordOf_lineText line).isLongest.eq h.isLongest
  · rintro rfl
    exact ⟨_, isRecordOf_lineText line⟩

theorem outputLines_eq {pieces : List (List UInt8)} {ended : List (List UInt8)}
    {rest : List UInt8} (h : IsCutInto pieces.flatten ended rest) :
    outputLines pieces = (allLines ended rest).map lineText := by
  have hended : (ended.map (· ++ [10])).map lineText = ended.map lineText := by
    rw [List.map_map]
    exact List.map_congr_left fun line _ => lineText_append_lineFeed line
  rw [outputLines, LineReader.linesOf_initial h, allLines, List.map_append, hended, allLines,
    List.map_append]

/-! ## The records of an engine -/

/-- What of something that is told of pipes is told of one of them. -/
def ofPipe {α : Type} (pipe : OutputPipe) (l : List (OutputPipe × α)) : List α :=
  l.filterMap fun x => if x.1 = pipe then some x.2 else none

section OfPipe

variable {α : Type} {pipe : OutputPipe}

theorem ofPipe_append (l m : List (OutputPipe × α)) :
    ofPipe pipe (l ++ m) = ofPipe pipe l ++ ofPipe pipe m := List.filterMap_append

theorem ofPipe_map_mk {β : Type} (f : β → α) (l : List β) (other : OutputPipe) :
    ofPipe pipe (l.map fun x => (other, f x)) = if other = pipe then l.map f else [] := by
  by_cases h : other = pipe <;> simp [ofPipe, h, List.filterMap_map]

end OfPipe

namespace ChildEngine

/-- The shared state with texts of the pipes recorded. -/
def recorded (e : ChildEngine) (texts : List (OutputPipe × String)) : ProcessEngine :=
  { e.shared with logs := e.shared.logs ++ texts.map fun t => ⟨stamp, t.2⟩ }

/-- The engine after output was read in pieces, each by the reader of its pipe. -/
def readPieces (reads : List (OutputPipe × List UInt8)) (e : ChildEngine) : ChildEngine :=
  reads.foldl (fun e piece => e.readPipe piece.1 piece.2) e

/-- The engine after all output of a child was read in pieces. -/
def readToEnd (reads : List (OutputPipe × List UInt8)) (e : ChildEngine) : ChildEngine :=
  (readPieces reads { e with readers := fun _ => .initial }).closePipes

theorem shared_readPipe (e : ChildEngine) (pipe : OutputPipe) (bytes : List UInt8) :
    (e.readPipe pipe bytes).shared =
      e.recorded (((e.readers pipe).feed bytes).1.map fun line => (pipe, lineText line)) := by
  simp [readPipe, pushLines, ProcessEngine.pushAll, recorded]

theorem readers_readPipe (e : ChildEngine) (pipe other : OutputPipe) (bytes : List UInt8) :
    (e.readPipe pipe bytes).readers other =
      if other = pipe then ((e.readers pipe).feed bytes).2 else e.readers other := rfl

theorem shared_closePipes (e : ChildEngine) :
    e.closePipes.shared =
      e.recorded (((e.readers .out).finish.map fun line => (.out, lineText line)) ++
        (e.readers .err).finish.map fun line => (.err, lineText line)) := by
  simp [closePipes, pushLines, ProcessEngine.pushAll, recorded, Function.comp_def]

/-- What is recorded of each pipe are the lines that its reader finds, whatever comes from the other
one in between. -/
theorem exists_recorded (reads : List (OutputPipe × List UInt8)) (e : ChildEngine) :
    ∃ texts, (readPieces reads e).closePipes.shared = e.recorded texts ∧
      ∀ pipe, ofPipe pipe texts =
        ((e.readers pipe).linesOf (ofPipe pipe reads)).map lineText := by
  induction reads generalizing e with
  | nil =>
    refine ⟨_, shared_closePipes e, fun pipe => ?_⟩
    rw [ofPipe_append, ofPipe_map_mk, ofPipe_map_mk]
    cases pipe <;> simp [ofPipe, LineReader.linesOf]
  | cons piece reads ih =>
    obtain ⟨pipe, bytes⟩ := piece
    obtain ⟨texts, hshared, htexts⟩ := ih (e.readPipe pipe bytes)
    refine ⟨(((e.readers pipe).feed bytes).1.map fun line => (pipe, lineText line)) ++ texts, ?_,
      fun other => ?_⟩
    · refine hshared.trans ?_
      rw [recorded, shared_readPipe, recorded, recorded]
      simp
    · rw [ofPipe_append, ofPipe_map_mk, htexts, readers_readPipe]
      by_cases h : other = pipe
      · subst h
        simp [ofPipe, LineReader.linesOf]
      · simp [ofPipe, h, Ne.symm h]

/-- **The records of all output:** of each pipe one for each line that its bytes are cut into, in
this order, whatever pieces they come in and whatever is read from the other pipe in between. -/
theorem recorded_readToEnd (reads : List (OutputPipe × List UInt8)) (e : ChildEngine) :
    ∃ texts, (e.readToEnd reads).shared = e.recorded texts ∧
      ∀ pipe, ∃ ended rest, IsCutInto (ofPipe pipe reads).flatten ended rest ∧
        List.Forall₂ (fun line text => ∃ kept, IsRecordOf line kept text)
          (allLines ended rest) (ofPipe pipe texts) := by
  obtain ⟨texts, hshared, htexts⟩ := exists_recorded reads { e with readers := fun _ => .initial }
  refine ⟨texts, hshared, fun pipe => ?_⟩
  obtain ⟨ended, rest, hcut⟩ := exists_isCutInto (ofPipe pipe reads).flatten
  have hlines : ofPipe pipe texts = (allLines ended rest).map lineText :=
    (htexts pipe).trans (outputLines_eq hcut)
  refine ⟨ended, rest, hcut, ?_⟩
  rw [hlines, List.forall₂_map_right_iff]
  exact List.forall₂_same.2 fun line _ => exists_isRecordOf_iff.2 rfl

end ChildEngine

end ProxyControl
