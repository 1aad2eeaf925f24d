import ProxyControl.Proofs.Text.ByteOrder
import ProxyControl.Proofs.Text.Pieces

/-!
# Lines of bytes

Bytes are cut into lines where text is cut into lines: a line feed is one byte, and no other
character has this byte among its own. So the lines of a text have the bytes of the lines of its
bytes, and bytes are those of a text exactly where each of their lines is.

## Main definitions

* `Text.encode`: the bytes of characters
* `Text.decode?`: the text that bytes are those of, if there is one

## Main results

* `Text.segments_induction`: induction over the lines of a sequence
* `Text.segments_encode`: the lines of a text and those of its bytes
* `Text.isSome_decode?_iff`: bytes are text where each of their lines is
-/

set_option autoImplicit false

namespace ProxyControl.Text

/-! ## Segments -/

section Segments

variable {α : Type} [DecidableEq α] {terminator : α}

/-- A sequence without terminators is a segment that none ends, unless it is empty. -/
theorem segments_of_notMem {xs : List α} (h : terminator ∉ xs) :
    segments terminator xs = if xs = [] then [] else [(xs, false)] := by
  have hx : ∀ x ∈ xs, decide (x = terminator) = false := by
    intro x hx
    exact decide_eq_false fun he => h (he ▸ hx)
  simp [segments, splitWhere_of_all_not hx]

/-- **Induction over segments.** What holds where there is no terminator, and behind one more
segment that a terminator ends, holds of all sequences. -/
theorem segments_induction (terminator : α) {motive : List α → Prop}
    (last : ∀ xs, terminator ∉ xs → motive xs)
    (segment : ∀ xs rest, terminator ∉ xs → motive rest → motive (xs ++ terminator :: rest))
    (xs : List α) : motive xs := by
  induction hn : xs.length using Nat.strongRecOn generalizing xs with
  | ind n ih =>
    by_cases h : terminator ∈ xs
    · obtain ⟨first, rest, rfl, hfirst⟩ := List.eq_append_cons_of_mem h
      refine segment first rest hfirst (ih rest.length ?_ rest rfl)
      rw [← hn, List.length_append, List.length_cons]
      omega
    · exact last xs h

/-- Behind a terminator, or at the start, the segments are those of what follows. -/
theorem segments_append {xs : List α} (h : xs = [] ∨ xs.getLast? = some terminator)
    (ys : List α) :
    segments terminator (xs ++ ys) = segments terminator xs ++ segments terminator ys := by
  induction xs using segments_induction terminator with
  | last xs hxs =>
    rcases h with rfl | hlast
    · rfl
    · exact absurd (List.mem_of_getLast? hlast) hxs
  | segment xs rest hxs ih =>
    have hrest : rest = [] ∨ rest.getLast? = some terminator := by
      cases rest with
      | nil => exact .inl rfl
      | cons x rest => exact .inr (by simpa using h)
    rw [List.append_assoc, List.cons_append, segments_append_cons hxs, segments_append_cons hxs,
      ih hrest, List.cons_append]

end Segments

/-! ## Bytes of text -/

/-- The bytes of characters. -/
def encode (cs : List Char) : List UInt8 := cs.flatMap String.utf8EncodeChar

theorem encode_append (cs ds : List Char) : encode (cs ++ ds) = encode cs ++ encode ds :=
  List.flatMap_append

theorem encode_lineFeed_cons (cs : List Char) : encode ('\n' :: cs) = 10 :: encode cs := rfl

theorem encode_eq_nil_iff {cs : List Char} : encode cs = [] ↔ cs = [] := by
  cases cs with
  | nil => exact iff_of_true rfl rfl
  | cons c cs => simp [encode, String.utf8EncodeChar_ne_nil]

theorem lineFeed_eq_ofNat_iff {n : Nat} : (10 : UInt8) = UInt8.ofNat n ↔ n % 256 = 10 := by
  rw [← UInt8.toNat_inj, UInt8.toNat_ofNat']
  exact eq_comm

/-- Only a line feed has the byte of a line feed. -/
theorem lineFeed_mem_utf8EncodeChar_iff {c : Char} :
    10 ∈ String.utf8EncodeChar c ↔ c = '\n' := by
  constructor
  · intro h
    have hv : c.val.toNat = 10 := by
      unfold String.utf8EncodeChar at h
      generalize c.val.toNat = v at h ⊢
      dsimp only at h
      split at h
      · simp only [List.mem_singleton, lineFeed_eq_ofNat_iff] at h
        omega
      · repeat' split at h
        all_goals
          simp only [List.mem_cons, List.not_mem_nil, or_false, lineFeed_eq_ofNat_iff] at h
          omega
    exact Char.ext (UInt32.toNat_inj.1 hv)
  · rintro rfl
    exact List.mem_singleton.2 rfl

theorem lineFeed_mem_encode_iff {cs : List Char} : 10 ∈ encode cs ↔ '\n' ∈ cs := by
  simp [encode, lineFeed_mem_utf8EncodeChar_iff]

/-- **The lines of a text have the bytes of the lines of its bytes.** -/
theorem segments_encode (cs : List Char) :
    segments 10 (encode cs) = (segments '\n' cs).map fun s => (encode s.1, s.2) := by
  induction cs using segments_induction '\n' with
  | last cs hcs =>
    rw [segments_of_notMem (mt lineFeed_mem_encode_iff.1 hcs), segments_of_notMem hcs]
    by_cases h : cs = [] <;> simp [h, encode_eq_nil_iff]
  | segment cs rest hcs ih =>
    rw [encode_append, encode_lineFeed_cons, segments_append_cons hcs,
      segments_append_cons (mt lineFeed_mem_encode_iff.1 hcs), ih, List.map_cons]

/-! ## Text of bytes -/

/-- The text that bytes are those of. -/
def decode? (bytes : List UInt8) : Option String := String.fromUTF8? ⟨bytes.toArray⟩

/-- The bytes of a text are read as the text. -/
theorem decode_encode (text : String) : String.fromUTF8? text.toUTF8 = some text := by
  have h : text.toUTF8.IsValidUTF8 := by
    rw [String.toUTF8_eq_toByteArray]
    exact text.isValidUTF8
  rw [String.fromUTF8?, dif_pos h]
  rfl

theorem decode?_eq_some_iff {l : List UInt8} {text : String} :
    decode? l = some text ↔ encode text.toList = l := by
  have hbytes : encode text.toList = text.toUTF8.data.toList := (bytes_eq text).symm
  constructor
  · intro h
    rw [decode?, String.fromUTF8?] at h
    split at h
    · rw [hbytes, ← Option.some.inj h, String.toUTF8_eq_toByteArray]
      rfl
    · cases h
  · intro h
    rw [← h, hbytes, decode?]
    exact decode_encode text

theorem decode?_encode (cs : List Char) : decode? (encode cs) = some (String.ofList cs) :=
  decode?_eq_some_iff.2 (by rw [String.toList_ofList])

theorem exists_encode_of_isSome {l : List UInt8} (h : (decode? l).isSome = true) :
    ∃ cs, encode cs = l := by
  obtain ⟨text, ht⟩ := Option.isSome_iff_exists.1 h
  exact ⟨text.toList, decode?_eq_some_iff.1 ht⟩

/-- **Bytes are text where each of their lines is.** -/
theorem isSome_decode?_iff {l : List UInt8} :
    (decode? l).isSome = true ↔ ∀ s ∈ segments 10 l, (decode? s.1).isSome = true := by
  constructor
  · intro h s hs
    obtain ⟨cs, rfl⟩ := exists_encode_of_isSome h
    rw [segments_encode] at hs
    obtain ⟨r, -, rfl⟩ := List.mem_map.1 hs
    rw [decode?_encode, Option.isSome_some]
  · induction l using segments_induction (10 : UInt8) with
    | last l hl =>
      intro h
      rw [segments_of_notMem hl] at h
      by_cases hn : l = []
      · rw [hn, show decode? [] = some (String.ofList []) from decode?_encode [],
          Option.isSome_some]
      · exact h (l, false) (by rw [if_neg hn]; exact List.mem_singleton_self _)
    | segment l rest hl ih =>
      intro h
      rw [segments_append_cons hl, List.forall_mem_cons] at h
      obtain ⟨cs, rfl⟩ := exists_encode_of_isSome h.1
      obtain ⟨ds, rfl⟩ := exists_encode_of_isSome (ih h.2)
      rw [← encode_lineFeed_cons, ← encode_append, decode?_encode, Option.isSome_some]

end ProxyControl.Text
