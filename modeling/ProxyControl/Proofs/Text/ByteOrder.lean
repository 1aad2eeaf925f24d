import ProxyControl.Text.Utf8

/-!
# The order of texts by their bytes

Texts are compared by their characters, and files and maps keep them in the order of their bytes.
Both orders are the same: of two different characters, the lower one has the lower bytes, as longer
forms start with higher bytes and forms of one length have the digits of their characters in order.

## Main definitions

* `Text.bytes`: the bytes of a text

## Main results

* `Text.bytes_lt_of_lt`: the order of texts is the order of their bytes
-/

set_option autoImplicit false

namespace ProxyControl.Text

/-- The bytes of a text. -/
def bytes (s : String) : List UInt8 := s.toUTF8.data.toList

theorem bytes_eq (s : String) : bytes s = s.toList.flatMap String.utf8EncodeChar := by
  rw [bytes, String.toUTF8_eq_toByteArray, ← String.utf8Encode_toList, List.utf8Encode]
  simp

/-- Lists that start alike are in the order of what follows. -/
theorem append_lt_append_iff {α : Type} [LT α] [Std.Irrefl fun a b : α => a < b]
    (start l m : List α) : start ++ l < start ++ m ↔ l < m := by
  induction start with
  | nil => rfl
  | cons a start ih =>
    rw [List.cons_append, List.cons_append, List.cons_lt_cons_iff, ih]
    constructor
    · rintro (h | ⟨-, h⟩)
      · exact absurd h (Std.Irrefl.irrefl a)
      · exact h
    · exact fun h => .inr ⟨rfl, h⟩

theorem cons_ofNat_lt {a b : Nat} (hb : b < 256) (h : a < b) (l m : List UInt8) :
    UInt8.ofNat a :: l < UInt8.ofNat b :: m := by
  have ha : a < 256 := Nat.lt_trans h hb
  rw [List.cons_lt_cons_iff, UInt8.lt_iff_toNat_lt, UInt8.toNat_ofNat_of_lt' ha,
    UInt8.toNat_ofNat_of_lt' hb]
  exact .inl h

theorem cons_ofNat_lt_of_eq {a b : Nat} (h : a = b) {l m : List UInt8} (hl : l < m) :
    UInt8.ofNat a :: l < UInt8.ofNat b :: m := by
  rw [h, List.cons_lt_cons_iff]
  exact .inr ⟨rfl, hl⟩

/-- Of two characters the lower one has the lower bytes, whatever follows. -/
theorem encode_append_lt {c d : Char} (h : c < d) (l m : List UInt8) :
    String.utf8EncodeChar c ++ l < String.utf8EncodeChar d ++ m := by
  have hv : c.val.toNat < d.val.toNat := h
  have hd : d.val.toNat < 1114112 := by
    rcases d.valid with h | ⟨-, h⟩ <;> simp at h ⊢ <;> omega
  unfold String.utf8EncodeChar
  generalize c.val.toNat = v at *
  generalize d.val.toNat = w at *
  simp only
  repeat' (split <;> try omega)
  all_goals simp only [List.cons_append, List.nil_append]
  all_goals try exact cons_ofNat_lt (by omega) (by omega) _ _
  · have hdigits : v / 64 < w / 64 ∨ v / 64 = w / 64 ∧ v % 64 < w % 64 := by omega
    rcases hdigits with h | ⟨h₁, h⟩
    · exact cons_ofNat_lt (by omega) (by omega) _ _
    · exact cons_ofNat_lt_of_eq (by omega) (cons_ofNat_lt (by omega) (by omega) _ _)
  · have hdigits : v / 4096 < w / 4096 ∨ v / 4096 = w / 4096 ∧
        (v / 64 % 64 < w / 64 % 64 ∨ v / 64 % 64 = w / 64 % 64 ∧ v % 64 < w % 64) := by omega
    rcases hdigits with h | ⟨h₁, h | ⟨h₂, h⟩⟩
    · exact cons_ofNat_lt (by omega) (by omega) _ _
    · exact cons_ofNat_lt_of_eq (by omega) (cons_ofNat_lt (by omega) (by omega) _ _)
    · exact cons_ofNat_lt_of_eq (by omega) (cons_ofNat_lt_of_eq (by omega)
        (cons_ofNat_lt (by omega) (by omega) _ _))
  · have hdigits : v / 262144 < w / 262144 ∨ v / 262144 = w / 262144 ∧
        (v / 4096 % 64 < w / 4096 % 64 ∨ v / 4096 % 64 = w / 4096 % 64 ∧
          (v / 64 % 64 < w / 64 % 64 ∨ v / 64 % 64 = w / 64 % 64 ∧ v % 64 < w % 64)) := by
      omega
    rcases hdigits with h | ⟨h₁, h | ⟨h₂, h | ⟨h₃, h⟩⟩⟩
    · exact cons_ofNat_lt (by omega) (by omega) _ _
    · exact cons_ofNat_lt_of_eq (by omega) (cons_ofNat_lt (by omega) (by omega) _ _)
    · exact cons_ofNat_lt_of_eq (by omega) (cons_ofNat_lt_of_eq (by omega)
        (cons_ofNat_lt (by omega) (by omega) _ _))
    · exact cons_ofNat_lt_of_eq (by omega) (cons_ofNat_lt_of_eq (by omega)
        (cons_ofNat_lt_of_eq (by omega) (cons_ofNat_lt (by omega) (by omega) _ _)))

/-- **The order of texts is the order of their bytes.** -/
theorem bytes_lt_of_lt {a b : String} (h : a < b) : bytes a < bytes b := by
  rw [bytes_eq, bytes_eq]
  rw [String.lt_iff] at h
  generalize a.toList = l at *
  generalize b.toList = m at *
  -- induction on the greater text: the first characters that differ decide
  induction m generalizing l with
  | nil => exact absurd h (List.not_lt_nil l)
  | cons d m ih =>
    cases l with
    | nil =>
      obtain ⟨x, xs, hx⟩ := List.exists_cons_of_ne_nil (String.utf8EncodeChar_ne_nil (c := d))
      rw [List.flatMap_nil, List.flatMap_cons, hx]
      exact List.nil_lt_cons x _
    | cons c l =>
      rw [List.flatMap_cons, List.flatMap_cons]
      rcases List.cons_lt_cons_iff.1 h with hc | ⟨rfl, hl⟩
      · exact encode_append_lt hc _ _
      · exact (append_lt_append_iff _ _ _).2 (ih l hl)

end ProxyControl.Text
