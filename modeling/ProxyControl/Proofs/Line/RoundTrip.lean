import ProxyControl.Profile.Line
import ProxyControl.Proofs.Line.Fields
import ProxyControl.Proofs.Text.Words
import Mathlib.Data.Set.Function

/-!
# Profiles read back from full lines

In the full dialect a profile with a server reads back from its line, and one without a server is
refused. The numbers of the line are read back from their digits, which no blanks stand before or
after; a domain that is not given is read as the empty one; and a carriage return after the line is
not one of it, as no line holds any.

## Main results

* `Profile.ofFields?_lineFields`: a profile reads back from the fields of its line
* `Profile.toLine_full`: full lines are lines, read back, and tell profiles apart
-/

set_option autoImplicit false

namespace ProxyControl

namespace Text

/-! ## Ends of texts -/

/-- A carriage return at the end is dropped where there is no other one. -/
theorem dropCarriageReturn_of_notMem {cs : List Char} (h : '\r' ∉ cs) :
    dropCarriageReturn cs = cs := by
  refine if_neg fun hr => h ?_
  exact List.mem_of_getLast? hr

theorem dropCarriageReturn_append (cs : List Char) : dropCarriageReturn (cs ++ ['\r']) = cs := by
  simp [dropCarriageReturn]

end Text

namespace Profile

open Text

/-! ## Profiles on lines -/

/-- **A profile reads back from the fields of its line**, unless it has no server. -/
theorem ofFields?_lineFields (p : Profile) :
    ofFields? p.lineFields = if p.serverAddr = "" then none else some p := by
  have hudp : readUnsigned? 65535 (trimChars (decimal p.udpPort.toNat)) =
      some p.udpPort.toNat := by
    rw [trimChars_decimal, readUnsigned?_decimal]
    exact Nat.le_of_lt_succ p.udpPort.toNat_lt
  have htcp : readUnsigned? 4294967295 (trimChars (decimal p.udpTcpFactor.toNat)) =
      some p.udpTcpFactor.toNat := by
    rw [trimChars_decimal, readUnsigned?_decimal]
    exact Nat.le_of_lt_succ p.udpTcpFactor.toNat_lt
  have hdomain : (if p.domain = "" then [] else [p.domain.toList]).headD [] = p.domain.toList := by
    by_cases h : p.domain = ""
    · simp [h]
    · simp [h]
  simp only [lineFields, List.cons_append, List.nil_append, ofFields?, hudp, htcp, hdomain]
  by_cases hs : p.serverAddr = ""
  · simp [hs]
  · simp [hs]

/-- A line, with or without a carriage return after it, is read as its fields are. -/
theorem ofLine?_toLine (p : Profile) :
    ofLine? .full (p.toLine .full) = (if p.serverAddr = "" then none else some p) ∧
      ofLine? .full (p.toLine .full ++ "\r") = if p.serverAddr = "" then none else some p := by
  have hr := (Dialect.notMem_joinChars p.lineFields).2
  have hne : p.lineFields ≠ [] := List.cons_ne_nil _ _
  constructor
  · rw [ofLine?, toLine, String.toList_ofList, dropCarriageReturn_of_notMem hr,
      Dialect.splitChars_joinChars hne, ofFields?_lineFields]
  · have hl : (p.toLine .full ++ "\r").toList = Dialect.full.joinChars p.lineFields ++ ['\r'] := by
      simp [toLine]
    rw [ofLine?, hl, dropCarriageReturn_append, Dialect.splitChars_joinChars hne,
      ofFields?_lineFields]

/-- **Full lines.** Whatever its fields hold, the line of a profile is one line; with or without a
carriage return after it, it reads back as the profile, unless the profile has no server, when it is
refused; and no two profiles with servers have the same line. -/
theorem toLine_full :
    (∀ p : Profile, '\n' ∉ (p.toLine .full).toList ∧ '\r' ∉ (p.toLine .full).toList ∧
      ofLine? .full (p.toLine .full) = (if p.serverAddr = "" then none else some p) ∧
      ofLine? .full (p.toLine .full ++ "\r") = if p.serverAddr = "" then none else some p) ∧
    Set.InjOn (toLine .full) {p | p.serverAddr ≠ ""} := by
  constructor
  · intro p
    have h := Dialect.notMem_joinChars p.lineFields
    rw [toLine, String.toList_ofList]
    exact ⟨h.1, h.2, ofLine?_toLine p⟩
  · intro p hp q hq hline
    have hread := (ofLine?_toLine p).1
    rw [hline, (ofLine?_toLine q).1, if_neg hp, if_neg hq] at hread
    exact (Option.some.inj hread).symm

end Profile

end ProxyControl
