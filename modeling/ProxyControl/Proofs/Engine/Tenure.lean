import Mathlib.Data.List.Basic
import Mathlib.Data.List.Induction

/-!
# Tenures of start calls

An engine serves the session of one start call at a time. The call is accepted in its first section
and comes to its end in its last one, and between these two other callers may ask something of the
engine. The sections of all calls, one after the other, are a history, and what counts for a session
is what was asked in its own tenure: not before the call was accepted, and not after its end.

## Main definitions

* `Occurrence`: a section of a call, or something that was asked
* `tenure`: the call that is served after a history, and what was asked since it was accepted
* `Served`: what was asked in the tenure of a call that has come to its end
* `Ledger`: the outcomes of all calls, by what was asked in their tenures

## Main results

* `tenure_eq_some_iff`: a tenure begins where its call was accepted, and nothing ends it since
* `served_concat_iff`: a tenure that has ended stays what it was
* `Ledger.refuse`, `Ledger.accept`, `Ledger.between`, `Ledger.finish`: each kind of section keeps a
  ledger
-/

set_option autoImplicit false

namespace ProxyControl

/-- A moment in the history of an engine's calls. -/
inductive Occurrence (α : Type) where
  /-- A start call was accepted. -/
  | accepted (call : Nat)
  /-- A start call fired readiness. -/
  | fired (call : Nat)
  /-- Something was asked of the engine. -/
  | asked (a : α)
  /-- The session of a start call came to its end. -/
  | finished (call : Nat)
  deriving DecidableEq, Repr

variable {α : Type} {history during : List (Occurrence α)} {call : Nat} {asked : List α}

namespace Occurrence

/-- Whether neither a session begins nor one ends. -/
def isBetween : Occurrence α → Bool
  | .fired _ | .asked _ => true
  | .accepted _ | .finished _ => false

/-- The tenure after one more occurrence. -/
def update (t : Option (Nat × List α)) : Occurrence α → Option (Nat × List α)
  | .accepted call => some (call, [])
  | .fired _ => t
  | .asked a => t.map fun (call, asked) => (call, asked ++ [a])
  | .finished _ => none

end Occurrence

/-- What was asked in a part of a history, in order. -/
def askedIn (history : List (Occurrence α)) : List α :=
  history.filterMap fun
    | .asked a => some a
    | _ => none

/-- The call that is served after a history, and what was asked since it was accepted. -/
def tenure (history : List (Occurrence α)) : Option (Nat × List α) :=
  history.foldl Occurrence.update none

/-- A call was accepted and has come to its end, and this is what was asked in between. -/
def Served (history : List (Occurrence α)) (call : Nat) (asked : List α) : Prop :=
  ∃ before during after, history = before ++ .accepted call :: during ++ .finished call :: after ∧
    (∀ o ∈ during, o.isBetween = true) ∧ askedIn during = asked

@[simp] theorem askedIn_append (l m : List (Occurrence α)) :
    askedIn (l ++ m) = askedIn l ++ askedIn m := List.filterMap_append

@[simp] theorem tenure_nil : tenure ([] : List (Occurrence α)) = none := rfl

theorem tenure_concat (history : List (Occurrence α)) (o : Occurrence α) :
    tenure (history ++ [o]) = o.update (tenure history) := by
  simp [tenure]

@[simp] theorem tenure_accepted (history : List (Occurrence α)) (call : Nat) :
    tenure (history ++ [.accepted call]) = some (call, []) := tenure_concat ..

@[simp] theorem tenure_fired (history : List (Occurrence α)) (call : Nat) :
    tenure (history ++ [.fired call]) = tenure history := tenure_concat ..

@[simp] theorem tenure_asked (history : List (Occurrence α)) (a : α) :
    tenure (history ++ [.asked a]) =
      (tenure history).map fun (call, asked) => (call, asked ++ [a]) := tenure_concat ..

@[simp] theorem tenure_finished (history : List (Occurrence α)) (call : Nat) :
    tenure (history ++ [.finished call]) = none := tenure_concat ..

/-- While no session begins or ends, what is asked adds up. -/
theorem foldl_update_between (hd : ∀ o ∈ during, o.isBetween = true) :
    during.foldl Occurrence.update (some (call, asked)) = some (call, asked ++ askedIn during) := by
  induction during generalizing asked with
  | nil => simp [askedIn]
  | cons o during ih =>
    have hrest : ∀ o ∈ during, o.isBetween = true := fun o ho => hd o (List.mem_cons_of_mem _ ho)
    cases o with
    | fired i => exact ih hrest
    | asked a =>
      rw [List.foldl_cons, Occurrence.update, Option.map_some, ih hrest]
      simp [askedIn]
    | accepted i => cases hd _ List.mem_cons_self
    | finished i => cases hd _ List.mem_cons_self

/-- **A tenure** begins where its call was accepted, no session begins or ends since then, and its
requests are those that were made since then. -/
theorem tenure_eq_some_iff :
    tenure history = some (call, asked) ↔
      ∃ before during, history = before ++ .accepted call :: during ∧
        (∀ o ∈ during, o.isBetween = true) ∧ askedIn during = asked := by
  constructor
  · intro h
    induction history using List.reverseRecOn generalizing asked with
    | nil => cases h
    | append_singleton history o ih =>
      have extend {asked' : List α} (ht : tenure history = some (call, asked'))
          (ho : o.isBetween = true) (ha : asked' ++ askedIn [o] = asked) :
          ∃ before during, history ++ [o] = before ++ .accepted call :: during ∧
            (∀ o ∈ during, o.isBetween = true) ∧ askedIn during = asked := by
        obtain ⟨before, during, rfl, hd, rfl⟩ := ih ht
        refine ⟨before, during ++ [o], by simp, ?_, by rw [askedIn_append, ha]⟩
        intro o' ho'
        rcases List.mem_append.1 ho' with ho' | ho'
        · exact hd o' ho'
        · rwa [List.mem_singleton.1 ho']
      rw [tenure_concat] at h
      cases o with
      | accepted i =>
        cases h
        exact ⟨history, [], rfl, by simp, rfl⟩
      | fired i => exact extend h rfl (List.append_nil _)
      | asked a =>
        obtain ⟨⟨i, asked'⟩, ht, he⟩ := Option.map_eq_some_iff.1 h
        cases he
        exact extend ht rfl rfl
      | finished i => cases h
  · rintro ⟨before, during, rfl, hd, rfl⟩
    rw [tenure, List.foldl_append, List.foldl_cons]
    exact foldl_update_between hd

/-- The call that is served was accepted. -/
theorem accepted_mem_of_tenure (h : tenure history = some (call, asked)) :
    .accepted call ∈ history := by
  obtain ⟨before, during, rfl, -, -⟩ := tenure_eq_some_iff.1 h
  simp

/-- **A tenure that has ended** stays what it was, and a new one ends where its call does. -/
theorem served_concat_iff {o : Occurrence α} :
    Served (history ++ [o]) call asked ↔
      Served history call asked ∨ o = .finished call ∧ tenure history = some (call, asked) := by
  constructor
  · rintro ⟨before, during, after, h, hd, ha⟩
    rcases List.eq_nil_or_concat' after with rfl | ⟨after, x, rfl⟩
    · obtain ⟨rfl, ho⟩ := List.append_inj' h rfl
      cases ho
      exact .inr ⟨rfl, tenure_eq_some_iff.2 ⟨before, during, rfl, hd, ha⟩⟩
    · rw [← List.cons_append, ← List.append_assoc] at h
      obtain ⟨rfl, -⟩ := List.append_inj' h rfl
      exact .inl ⟨before, during, after, rfl, hd, ha⟩
  · rintro (⟨before, during, after, rfl, hd, ha⟩ | ⟨rfl, ht⟩)
    · exact ⟨before, during, after ++ [o], by simp, hd, ha⟩
    · obtain ⟨before, during, rfl, hd, ha⟩ := tenure_eq_some_iff.1 ht
      exact ⟨before, during, [], rfl, hd, ha⟩

@[simp] theorem not_served_nil : ¬Served ([] : List (Occurrence α)) call asked := by
  rintro ⟨before, during, after, h, -⟩
  simp at h

/-- While no session begins or ends, the same call is served. -/
theorem exists_tenure_concat_iff {o : Occurrence α} (ho : o.isBetween = true) :
    (∃ asked, tenure (history ++ [o]) = some (call, asked)) ↔
      ∃ asked, tenure history = some (call, asked) := by
  cases o with
  | fired i => simp
  | asked a =>
    rw [tenure_asked]
    rcases tenure history with _ | ⟨i, asked⟩ <;> simp
  | accepted i => cases ho
  | finished i => cases ho

theorem served_between_iff {o : Occurrence α} (ho : o.isBetween = true) :
    Served (history ++ [o]) call asked ↔ Served history call asked := by
  rw [served_concat_iff]
  refine or_iff_left ?_
  rintro ⟨rfl, -⟩
  cases ho

/-- An entry is set to one with the same image. -/
theorem map_set_eq_of_getElem? {β γ : Type} {f : β → γ} {l : List β} {i : Nat} {a b : β}
    (ha : l[i]? = some a) (hf : f b = f a) : (l.set i b).map f = l.map f := by
  obtain ⟨hlt, rfl⟩ := List.getElem?_eq_some_iff.1 ha
  have hlt' : i < (l.map f).length := by rwa [List.length_map]
  have hget : (l.map f)[i] = f l[i] := List.getElem_map f
  rw [List.map_set, hf, ← hget, List.set_getElem_self]

/-- What stands in a list after one more was added. -/
theorem getElem?_concat_eq_some_iff {β : Type} {l : List β} {a b : β} {i : Nat} :
    (l ++ [a])[i]? = some b ↔ l[i]? = some b ∨ i = l.length ∧ a = b := by
  rcases Nat.lt_trichotomy i l.length with h | rfl | h
  · rw [List.getElem?_append_left h]
    simp [Nat.ne_of_lt h]
  · simp
  · rw [List.getElem?_eq_none (by simpa using Nat.succ_le_of_lt h),
      List.getElem?_eq_none (Nat.le_of_lt h)]
    simp [Nat.ne_of_gt h]

/-- The start calls of a history and their outcomes, where a call has none between its first section
and its last one. The outcome of a call whose session has ended is as `P` says by what was asked in
its tenure, and that of a call that was refused as `R` says. -/
structure Ledger {β : Type} (P : Nat → List α → β → Prop) (R : β → Prop)
    (history : List (Occurrence α)) (outcomes : List (Option β)) : Prop where
  /-- The call without an outcome is the one that is served. -/
  serves_iff : ∀ call : Nat,
    outcomes[call]? = some none ↔ ∃ asked, tenure history = some (call, asked)
  served : ∀ call asked, Served history call asked →
    ∃ b, P call asked b ∧ outcomes[call]? = some (some b)
  returned : ∀ (call : Nat) b, outcomes[call]? = some (some b) →
    (∃ asked, Served history call asked) ∨ .accepted call ∉ history ∧ R b
  /-- Only calls that were made were accepted. -/
  made : ∀ call, .accepted call ∈ history → call < outcomes.length
  /-- Only calls that were accepted fire readiness. -/
  fired : ∀ call, .fired call ∈ history → .accepted call ∈ history

namespace Ledger

variable {β : Type} {P Q : Nat → List α → β → Prop} {R : β → Prop} {outcomes : List (Option β)}

theorem nil : Ledger P R [] [] where
  serves_iff call := by simp
  served call asked h := absurd h not_served_nil
  returned call b h := by simp at h
  made call h := by simp at h
  fired call h := by simp at h

theorem mono (h : Ledger P R history outcomes)
    (hpq : ∀ call asked b, P call asked b → Q call asked b) : Ledger Q R history outcomes :=
  { h with
    served := fun call asked hs => by
      obtain ⟨b, hp, hb⟩ := h.served call asked hs
      exact ⟨b, hpq call asked b hp, hb⟩ }

/-- At most one call is between its first section and its last one. -/
theorem eq_of_serves (h : Ledger P R history outcomes) {i j : Nat} (hi : outcomes[i]? = some none)
    (hj : outcomes[j]? = some none) : i = j := by
  obtain ⟨asked, hi⟩ := (h.serves_iff i).1 hi
  obtain ⟨asked', hj⟩ := (h.serves_iff j).1 hj
  cases hi.symm.trans hj
  rfl

/-- No session begins or ends. -/
theorem between (h : Ledger P R history outcomes) {o : Occurrence α} (ho : o.isBetween = true)
    (hf : ∀ call, o = .fired call → .accepted call ∈ history) :
    Ledger P R (history ++ [o]) outcomes := by
  have hmem (call : Nat) : .accepted call ∈ history ++ [o] ↔ .accepted call ∈ history := by
    rw [List.mem_append, List.mem_singleton]
    refine or_iff_left ?_
    rintro rfl
    cases ho
  exact {
    serves_iff := fun call => by rw [h.serves_iff, exists_tenure_concat_iff ho]
    served := fun call asked hs => h.served call asked ((served_between_iff ho).1 hs)
    returned := fun call b hb => by
      simpa only [served_between_iff ho, hmem] using h.returned call b hb
    made := fun call hm => h.made call ((hmem call).1 hm)
    fired := fun call hm => by
      rw [hmem]
      rcases List.mem_append.1 hm with hm | hm
      · exact h.fired call hm
      · exact hf call (List.mem_singleton.1 hm).symm }

/-- The first section of a call that is refused. -/
theorem refuse (h : Ledger P R history outcomes) {b : β} (hb : R b) :
    Ledger P R history (outcomes ++ [some b]) where
  serves_iff call := by
    rw [← h.serves_iff, getElem?_concat_eq_some_iff]
    simp
  served call asked hs := by
    obtain ⟨b', hp, hb'⟩ := h.served call asked hs
    exact ⟨b', hp, getElem?_concat_eq_some_iff.2 (.inl hb')⟩
  returned call b' hb' := by
    rcases getElem?_concat_eq_some_iff.1 hb' with hb' | ⟨rfl, heq⟩
    · exact h.returned call b' hb'
    · cases heq
      exact .inr ⟨fun hm => Nat.lt_irrefl _ (h.made _ hm), hb⟩
  made call hm := by
    rw [List.length_append]
    exact Nat.lt_add_right 1 (h.made call hm)
  fired := h.fired

/-- The first section of a call that is accepted while none is served. -/
theorem accept (h : Ledger P R history outcomes) (ht : tenure history = none) :
    Ledger P R (history ++ [.accepted outcomes.length]) (outcomes ++ [none]) where
  serves_iff call := by
    rw [getElem?_concat_eq_some_iff, h.serves_iff, ht, tenure_accepted]
    simp [eq_comm]
  served call asked hs := by
    rcases served_concat_iff.1 hs with hs | ⟨heq, -⟩
    · obtain ⟨b, hp, hb⟩ := h.served call asked hs
      exact ⟨b, hp, getElem?_concat_eq_some_iff.2 (.inl hb)⟩
    · cases heq
  returned call b hb := by
    rcases getElem?_concat_eq_some_iff.1 hb with hb | ⟨-, heq⟩
    · have hlt := (List.getElem?_eq_some_iff.1 hb).1
      rcases h.returned call b hb with ⟨asked, hs⟩ | ⟨hn, hr⟩
      · exact .inl ⟨asked, served_concat_iff.2 (.inl hs)⟩
      · refine .inr ⟨?_, hr⟩
        simpa [Nat.ne_of_lt hlt] using hn
    · cases heq
  made call hm := by
    rw [List.length_append, List.length_singleton]
    rcases List.mem_append.1 hm with hm | hm
    · exact Nat.lt_succ_of_lt (h.made call hm)
    · cases List.mem_singleton.1 hm
      exact Nat.lt_succ_self _
  fired call hm := by
    have hf := h.fired call (by simpa using hm)
    simp [hf]

/-- The last section of the call that is served. -/
theorem finish (h : Ledger P R history outcomes) (ht : tenure history = some (call, asked)) {b : β}
    (hp : P call asked b) :
    Ledger P R (history ++ [.finished call]) (outcomes.set call (some b)) := by
  have hserves : outcomes[call]? = some none := (h.serves_iff call).2 ⟨asked, ht⟩
  have hself : (outcomes.set call (some b))[call]? = some (some b) :=
    List.getElem?_set_self (List.getElem?_eq_some_iff.1 hserves).1
  have hother {other : Nat} (hne : other ≠ call) :
      (outcomes.set call (some b))[other]? = outcomes[other]? := List.getElem?_set_ne hne.symm
  exact {
    serves_iff := fun other => by
      rw [tenure_finished]
      by_cases hne : other = call
      · subst hne
        simp [hself]
      · rw [hother hne, h.serves_iff, ht]
        simp [Ne.symm hne]
    served := fun other asked' hs => by
      rcases served_concat_iff.1 hs with hs | ⟨heq, ht'⟩
      · obtain ⟨b', hp', hb'⟩ := h.served other asked' hs
        refine ⟨b', hp', ?_⟩
        by_cases hne : other = call
        · subst hne
          cases hserves.symm.trans hb'
        · rwa [hother hne]
      · cases heq
        cases ht.symm.trans ht'
        exact ⟨b, hp, hself⟩
    returned := fun other b' hb' => by
      by_cases hne : other = call
      · subst hne
        exact .inl ⟨asked, served_concat_iff.2 (.inr ⟨rfl, ht⟩)⟩
      · rw [hother hne] at hb'
        rcases h.returned other b' hb' with ⟨asked', hs⟩ | ⟨hn, hr⟩
        · exact .inl ⟨asked', served_concat_iff.2 (.inl hs)⟩
        · exact .inr ⟨by simpa using hn, hr⟩
    made := fun other hm => by
      rw [List.length_set]
      exact h.made other (by simpa using hm)
    fired := fun other hm => by
      have hf := h.fired other (by simpa using hm)
      simp [hf] }

end Ledger

end ProxyControl
