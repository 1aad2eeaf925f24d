import Mathlib.Logic.Function.Iterate
import ProxyControl.Proofs.Session.Scene
import ProxyControl.Proofs.Session.Upkeep

/-!
# Waiting for a phase

A call that waits handles all messages that are there before it looks at the phase, and does so
again each time that messages have come. Messages only lead a session on, so a phase that is left
between two looks is seen by no later one: the messages behind decide whether a wait sees a phase
that those before lead to.

## Main definitions

* `Phase.rank`: how far a session has come
* `Session.handleNext`: one message handled, and the others left

## Main results

* `Session.handleQueue_eq_iterate`: a wait handles one message after another, to the last
* `Session.waitFor_eq_true_iff`: where a wait looks
* `Session.waitFor_passed`: a phase that messages lead to is seen if none behind leads on
* `Session.running_unseen`: a session that becomes ready and ends is not seen running
* `Session.waitFor_stopped_iff`: the end of a session is always seen
-/

set_option autoImplicit false

namespace ProxyControl

namespace Phase

/-- How far a session has come. -/
def rank : Phase → Nat
  | starting => 0
  | running | stopping => 1
  | stopped => 2

theorem after_eq_or_rank_lt (generation : Nat) (p : Phase) (m : Message) :
    p.after generation m = p ∨ p.rank < (p.after generation m).rank := by
  cases m with
  | ready g =>
    by_cases h : g = generation ∧ p = .starting
    · right
      rw [after, if_pos h, h.2]
      decide
    · exact .inl (if_neg h)
  | log g record => exact .inl rfl
  | exited g status =>
    by_cases h : g = generation
    · rw [after, if_pos h]
      cases p <;> decide
    · exact .inl (if_neg h)

theorem rank_le_foldl_after (generation : Nat) (messages : List Message) (p : Phase) :
    p.rank ≤ (messages.foldl (after generation) p).rank := by
  induction messages generalizing p with
  | nil => exact Nat.le_refl _
  | cons m messages ih =>
    refine Nat.le_trans ?_ (ih (p.after generation m))
    rcases after_eq_or_rank_lt generation p m with he | hlt
    · exact Nat.le_of_eq (congrArg rank he).symm
    · exact Nat.le_of_lt hlt

/-- Messages that lead back to a phase have not led away from it. -/
theorem foldl_after_eq_self_iff {generation : Nat} {messages : List Message} {p : Phase} :
    messages.foldl (after generation) p = p ↔ ∀ m ∈ messages, p.after generation m = p := by
  induction messages with
  | nil => simp
  | cons m messages ih =>
    rw [List.foldl_cons, List.forall_mem_cons]
    rcases after_eq_or_rank_lt generation p m with he | hlt
    · rw [he, ih, and_iff_right rfl]
    · have hle := rank_le_foldl_after generation messages (p.after generation m)
      constructor
      · intro h
        rw [h] at hle
        omega
      · rintro ⟨h, -⟩
        rw [h] at hlt
        omega

end Phase

namespace Session

variable {s : Session} {target : Phase}

/-! ## One message after another -/

/-- The first of the messages that are there handled, and the others left. A log stream that is
given up with it sends the messages of `tail` to its end, and all that are there then are handled
before the session ends. -/
def handleNext (name : String) (tail : List Message) (s : Session) : Session :=
  match s.queue with
  | [] => s
  | m :: rest =>
    match (s.withQueue rest).receive name m with
    | (some status, s) => ((s.queue ++ tail).foldl (handleOne name) (s.withQueue [])).conclude status
    | (none, s) => s

/-- The next message has the log stream given up at the end of its session, or is all that is
handled. -/
theorem handleNext_cases (name : String) (tail rest : List Message) (m : Message) (s : Session) :
    (∃ status, m = .exited s.generation status ∧ s.receive name m = (some status, s.closeStream) ∧
      handleNext name tail (s.withQueue (m :: rest)) =
        (((rest ++ tail).foldl (handleOne name) s.closeStream).conclude status).withQueue []) ∨
      s.receive name m = (none, s.handleOne name m) ∧
        handleNext name tail (s.withQueue (m :: rest)) = (s.handleOne name m).withQueue rest := by
  have hreceive := receive_withQueue name rest s m
  rcases receive_cases name m s with ⟨status, hm, hr⟩ | hr <;> rw [hr] at hreceive
  · refine .inl ⟨status, hm, hr, ?_⟩
    rw [← conclude_withQueue, ← foldl_handleOne_withQueue]
    simp only [handleNext, withQueue] at hreceive ⊢
    rw [hreceive]
  · refine .inr ⟨hr, ?_⟩
    simp only [handleNext, withQueue] at hreceive ⊢
    rw [hreceive]

theorem iterate_handleNext_nil (name : String) (tail : List Message) (n : Nat) (s : Session) :
    (handleNext name tail)^[n] (s.withQueue []) = s.withQueue [] :=
  Function.iterate_fixed rfl n

theorem iterate_handleNext (name : String) (tail messages : List Message) (s : Session) :
    (handleNext name tail)^[messages.length] (s.withQueue messages) =
      (handleAll name tail messages s).withQueue [] := by
  induction messages generalizing s with
  | nil => rfl
  | cons m rest ih =>
    rw [List.length_cons, Function.iterate_succ_apply, handleAll]
    rcases handleNext_cases name tail rest m s with ⟨status, -, hr, hnext⟩ | ⟨hr, hnext⟩
    · rw [hr, hnext, iterate_handleNext_nil]
    · rw [hr, hnext, ih]

/-- A wait handles one message after another, to the last that is there. -/
theorem handleQueue_eq_iterate (name : String) (tail : List Message) (s : Session) :
    s.handleQueue name tail = (handleNext name tail)^[s.queue.length] s := by
  have h := iterate_handleNext name tail s.queue (s.withQueue [])
  rw [← handleAll_withQueue] at h
  exact h.symm

theorem queue_handleQueue (name : String) (tail : List Message) (s : Session) :
    (s.handleQueue name tail).queue = [] :=
  congrArg queue (handleAll_withQueue name tail [] s.queue s)

theorem phase_iterate_withQueue (name : String) (tail messages : List Message) (n : Nat)
    (s : Session) :
    ((handleNext name tail)^[n] (s.withQueue messages)).phase =
      (messages.take n).foldl (Phase.after s.generation) s.phase := by
  induction n generalizing messages s with
  | zero => rfl
  | succ n ih =>
    cases messages with
    | nil => rw [iterate_handleNext_nil]; rfl
    | cons m rest =>
      rw [Function.iterate_succ_apply, List.take_succ_cons, List.foldl_cons]
      rcases handleNext_cases name tail rest m s with ⟨status, rfl, -, hnext⟩ | ⟨-, hnext⟩
      -- the end of the session leaves no message, and none would lead away from it
      · rw [hnext, iterate_handleNext_nil, Phase.after, if_pos rfl, Phase.foldl_after_stopped,
          conclude_eq]
        rfl
      · have hgeneration : (s.handleOne name m).generation = s.generation :=
          congrArg Prod.fst (asked_handleOne name s m)
        rw [hnext, ih, hgeneration, phase_handleOne]

theorem phase_iterate_handleNext (name : String) (tail : List Message) (n : Nat) (s : Session) :
    ((handleNext name tail)^[n] s).phase =
      (s.queue.take n).foldl (Phase.after s.generation) s.phase :=
  phase_iterate_withQueue name tail s.queue n s

/-! ## The looks of a wait -/

theorem waitFor_of_phase {name : String} {tail : List Message}
    (h : (s.handleQueue name tail).phase = target) (arrivals : List (List Message)) :
    s.waitFor name tail target arrivals = (true, s.handleQueue name tail) := by
  cases arrivals <;> exact if_pos h

/-- A wait looks where all messages that were there, and all that have come up to then, are
handled. -/
theorem waitFor_eq_true_iff (name : String) (tail : List Message) (target : Phase)
    (arrivals : List (List Message)) (s : Session) :
    (s.waitFor name tail target arrivals).1 = true ↔ ∃ k ≤ arrivals.length,
      (s.queue ++ (arrivals.take k).flatten).foldl (Phase.after s.generation) s.phase = target := by
  induction arrivals generalizing s with
  | nil =>
    by_cases h : (s.handleQueue name tail).phase = target
    · rw [waitFor_of_phase h]
      exact iff_of_true rfl ⟨0, Nat.le_refl 0, by simpa [← phase_handleQueue_eq name tail] using h⟩
    · rw [waitFor, if_neg h]
      simpa [phase_handleQueue_eq] using h
  | cons messages arrivals ih =>
    by_cases h : (s.handleQueue name tail).phase = target
    · rw [waitFor_of_phase h]
      exact iff_of_true rfl ⟨0, Nat.zero_le _, by simpa [← phase_handleQueue_eq name tail] using h⟩
    · have hgeneration : (s.handleQueue name tail).generation = s.generation :=
        congrArg Prod.fst (asked_handleQueue name tail s)
      rw [waitFor, if_neg h, ih]
      dsimp only
      rw [hgeneration, phase_handleQueue_eq]
      constructor
      · rintro ⟨k, hk, hlook⟩
        exact ⟨k + 1, Nat.succ_le_succ hk, by simpa [List.foldl_append] using hlook⟩
      · rintro ⟨k, hk, hlook⟩
        cases k with
        | zero => exact absurd (by simpa [phase_handleQueue_eq] using hlook) h
        | succ k => exact ⟨k, Nat.le_of_succ_le_succ hk, by simpa [List.foldl_append] using hlook⟩

/-- A wait answers what its last look showed, and no message is left that came before it. -/
theorem waitFor_snd (name : String) (tail : List Message) (target : Phase)
    (arrivals : List (List Message)) (s : Session) :
    ((s.waitFor name tail target arrivals).1 = true ↔
      (s.waitFor name tail target arrivals).2.phase = target) ∧
      (s.waitFor name tail target arrivals).2.queue = [] := by
  induction arrivals generalizing s with
  | nil =>
    by_cases h : (s.handleQueue name tail).phase = target
    · rw [waitFor_of_phase h]
      exact ⟨iff_of_true rfl h, queue_handleQueue name tail s⟩
    · rw [waitFor, if_neg h]
      exact ⟨iff_of_false Bool.false_ne_true h, queue_handleQueue name tail s⟩
  | cons messages arrivals ih =>
    by_cases h : (s.handleQueue name tail).phase = target
    · rw [waitFor_of_phase h]
      exact ⟨iff_of_true rfl h, queue_handleQueue name tail s⟩
    · rw [waitFor, if_neg h]
      exact ih _

/-- **A wait sees a phase that the messages there lead to if none of those behind leads on.** Then
it answers at its first look. Otherwise the phase does not come again, whatever messages come. All
messages that are there are handled, and none is left for a later call. -/
theorem waitFor_passed (name : String) (tail : List Message) (arrivals : List (List Message))
    {n : Nat} (hn : ((handleNext name tail)^[n] s).phase = target) :
    let answer := s.waitFor name tail target arrivals
    (answer.1 = true ↔ ∀ m ∈ s.queue.drop n, target.after s.generation m = target) ∧
      (answer.1 = true ↔ answer.2.phase = target) ∧
      (answer.1 = true → answer.2 = s.handleQueue name tail) ∧ answer.2.queue = [] := by
  intro answer
  obtain ⟨hlast, hqueue⟩ := waitFor_snd name tail target arrivals s
  rw [phase_iterate_handleNext name tail n s] at hn
  have hwhole (more : List Message) :
      (s.queue ++ more).foldl (Phase.after s.generation) s.phase =
        (s.queue.drop n ++ more).foldl (Phase.after s.generation) target := by
    rw [← hn, ← List.foldl_append, ← List.append_assoc, List.take_append_drop]
  have hseen : answer.1 = true ↔ ∀ m ∈ s.queue.drop n, target.after s.generation m = target := by
    rw [waitFor_eq_true_iff]
    constructor
    · rintro ⟨k, -, hlook⟩ m hm
      rw [hwhole] at hlook
      exact Phase.foldl_after_eq_self_iff.1 hlook m (List.mem_append_left _ hm)
    · intro h
      refine ⟨0, Nat.zero_le _, ?_⟩
      rw [hwhole]
      exact Phase.foldl_after_eq_self_iff.2 (by simpa using h)
  refine ⟨hseen, hlast, fun h => ?_, hqueue⟩
  have hfirst : (s.handleQueue name tail).phase = target := by
    have hrest := Phase.foldl_after_eq_self_iff.2 (hseen.1 h)
    rw [phase_handleQueue_eq, ← List.append_nil s.queue, hwhole, List.append_nil, hrest]
  exact congrArg Prod.snd (waitFor_of_phase hfirst arrivals)

/-- A session that is started, and what happens beside it then. -/
def startedScene (actions : List Action) : Scene Unit :=
  (Scene.idle (.ofBackend ⟨"", fun w => (.ok [], w), fun _ w => (.ok (), w)⟩)
    ⟨.log, 0, "", 1⟩ ()).run (.start { Profile.new "h:1" with key := "k" } none none :: actions)

/-- A session that is told twice that it is ready. -/
theorem waitFor_passed_readyTwice :
    let s := (startedScene [.fire 1, .fire 1]).session
    ((handleNext "n" [])^[1] s).phase = .running ∧ s.queue.drop 1 = [.ready 1] ∧
      (s.waitFor "n" [] .running [[]]).1 = true := by
  intro s
  have hready : (s.queue.take 1).foldl (Phase.after s.generation) s.phase = .running := rfl
  rw [← phase_iterate_handleNext "n" []] at hready
  exact ⟨hready, rfl, (waitFor_passed "n" [] [[]] hready).1.2 (by decide)⟩

/-- A session that has become ready and whose start call has returned, before the messages of either
are handled: the first leads it to running, and no wait sees it running, whatever comes. -/
theorem running_unseen :
    let s := (startedScene [.fire 1, .giveBack 1 ⟨0x8002⟩]).session
    s.queue = [.ready 1, .exited 1 ⟨0x8002⟩] ∧ ((handleNext "n" [])^[1] s).phase = .running ∧
      ∀ (tail : List Message) (arrivals : List (List Message)),
        (s.waitFor "n" tail .running arrivals).1 = false := by
  intro s
  have hqueue : s.queue = [.ready 1, .exited 1 ⟨0x8002⟩] := rfl
  have hready : (s.queue.take 1).foldl (Phase.after s.generation) s.phase = .running := rfl
  rw [← phase_iterate_handleNext "n" []] at hready
  refine ⟨hqueue, hready, fun tail arrivals => Bool.eq_false_iff.2 fun hseen => ?_⟩
  obtain ⟨k, -, hlook⟩ := (waitFor_eq_true_iff "n" tail .running arrivals s).1 hseen
  have hstopped : (s.queue ++ (arrivals.take k).flatten).foldl (Phase.after s.generation) s.phase =
      .stopped := by
    refine Phase.foldl_after_eq_stopped_iff.2 (.inr ⟨⟨0x8002⟩, List.mem_append_left _ ?_⟩)
    rw [hqueue]
    exact List.mem_cons_of_mem _ List.mem_cons_self
  exact absurd (hlook.symm.trans hstopped) (by decide)

/-- A wait for the end of a session sees it if the start call has returned in the meantime, and only
then. -/
theorem waitFor_stopped_iff (name : String) (tail : List Message) (arrivals : List (List Message))
    (s : Session) :
    (s.waitFor name tail .stopped arrivals).1 = true ↔
      s.phase = .stopped ∨ ∃ status, .exited s.generation status ∈ s.queue ++ arrivals.flatten := by
  rw [waitFor_eq_true_iff]
  constructor
  · rintro ⟨k, -, hlook⟩
    refine (Phase.foldl_after_eq_stopped_iff.1 hlook).imp_right fun ⟨status, hmem⟩ => ⟨status, ?_⟩
    refine (List.mem_append.1 hmem).elim (List.mem_append_left _) fun hmem => ?_
    have hmore : (arrivals.take k).flatten ⊆ arrivals.flatten := fun m hm => by
      obtain ⟨l, hl, hml⟩ := List.mem_flatten.1 hm
      exact List.mem_flatten.2 ⟨l, List.mem_of_mem_take hl, hml⟩
    exact List.mem_append_right _ (hmore hmem)
  · intro h
    refine ⟨arrivals.length, Nat.le_refl _, Phase.foldl_after_eq_stopped_iff.2 ?_⟩
    rwa [List.take_length]

end Session

end ProxyControl
