import ProxyControl.Command.Control
import ProxyControl.Proofs.Text.Words
import Mathlib.Tactic.SplitIfs

/-!
# Lines that are commands

The commands of the operator are announced with the words that make them up. A line is read by its
words, of which the verb and the name of a mode are made small first; as words hold no blanks, the
mode has nothing to trim.

Two things keep the lines that are read apart from those that are announced. What comes after the
argument of a command is not looked at, so a line can be read that is announced nowhere, although
one more word after a command without an argument is refused. And the argument of `mitm` is not made
small, so a line that only differs in its case from one that is read is refused. On all other lines
the two are the same.

## Main definitions

* `Control.Announced`: the words of each command
* `Control.heard`: what of the words of a line is looked at
* `Control.IsTidy`: lines on which the announced commands are read, and no others

## Main results

* `Control.parse_eq_ok_iff`: the lines that are read as a command
* `Control.parse_announced`: the announced commands are read, on tidy lines
* `Control.announced_misheard`: the two kinds of lines on which they are not
-/

set_option autoImplicit false

namespace ProxyControl

theorem Mode.read?_eq_some_iff {s : String} {m : Mode} :
    read? s = some m ↔ Text.asciiLower (Text.trim s) = m.name := by
  simp only [read?]
  generalize Text.asciiLower (Text.trim s) = word
  constructor
  · intro h
    split_ifs at h with hiplist hglobal hnone
    all_goals
      obtain rfl := Option.some.inj h
      assumption
  · rintro rfl
    cases m <;> rfl

theorem Mode.parse_eq_ok_iff {s : String} {m : Mode} :
    parse s = .ok m ↔ Text.asciiLower (Text.trim s) = m.name := by
  rw [← read?_eq_some_iff, parse]
  cases read? s <;> simp

namespace Control

open Text

/-! ## Commands -/

/-- The words of the commands that are announced, in small letters, and what each of them is. -/
def announcements : List (List String × Control) :=
  [(["mode", "iplist"], .mode .iplist), (["mode", "global"], .mode .global),
    (["mode", "none"], .mode .none),
    (["mitm", "on"], .mitm true), (["mitm", "1"], .mitm true), (["mitm", "true"], .mitm true),
    (["mitm", "off"], .mitm false), (["mitm", "0"], .mitm false), (["mitm", "false"], .mitm false),
    (["status"], .status), (["stop"], .stop), (["quit"], .stop), (["exit"], .stop)]

/-- Whether words in small letters are announced as a command. -/
def Announced (spoken : List String) (control : Control) : Prop := (spoken, control) ∈ announcements

instance (spoken : List String) (control : Control) : Decidable (Announced spoken control) :=
  inferInstanceAs (Decidable ((spoken, control) ∈ announcements))

/-- What is looked at of the words of a line. After `mode` and `mitm` it is one more word. -/
def heard : List String → List String
  | verb :: argument :: more =>
    if asciiLower verb = "mode" then ["mode", asciiLower argument]
    else if asciiLower verb = "mitm" then ["mitm", argument]
    else asciiLower verb :: argument :: more
  | words => words.map asciiLower

theorem not_announced_nil (control : Control) : ¬Announced [] control := by
  simp [Announced, announcements]

theorem announced_verb_iff {verb : String} {control : Control} :
    Announced [verb] control ↔ ofWords verb none = some (.ok control) := by
  have htable : Announced [verb] control ↔ verb = "status" ∧ control = .status ∨
      verb ∈ ["stop", "quit", "exit"] ∧ control = .stop := by
    simp [Announced, announcements, or_and_right]
  rw [htable]
  simp only [ofWords]
  split_ifs with hstatus hstop
  · subst hstatus
    simp [eq_comm]
  · simp [hstatus, hstop, eq_comm]
  · simp [hstatus, hstop]

theorem announced_mode_iff {word : String} {control : Control} :
    Announced ["mode", word] control ↔ ∃ m : Mode, word = m.name ∧ control = .mode m := by
  have htable : Announced ["mode", word] control ↔ word = "iplist" ∧ control = .mode .iplist ∨
      word = "global" ∧ control = .mode .global ∨ word = "none" ∧ control = .mode .none := by
    simp [Announced, announcements]
  rw [htable]
  constructor
  · rintro (⟨rfl, rfl⟩ | ⟨rfl, rfl⟩ | ⟨rfl, rfl⟩)
    · exact ⟨.iplist, rfl, rfl⟩
    · exact ⟨.global, rfl, rfl⟩
    · exact ⟨.none, rfl, rfl⟩
  · rintro ⟨m, rfl, rfl⟩
    cases m <;> simp [Mode.name]

theorem announced_mitm_iff {word : String} {control : Control} :
    Announced ["mitm", word] control ↔ ∃ on, readSwitch? word = some on ∧ control = .mitm on := by
  have htable : Announced ["mitm", word] control ↔
      word ∈ ["on", "1", "true"] ∧ control = .mitm true ∨
        word ∈ ["off", "0", "false"] ∧ control = .mitm false := by
    simp [Announced, announcements, or_and_right, or_assoc]
  have hdisjoint : word ∈ ["on", "1", "true"] → word ∉ ["off", "0", "false"] := by
    simp only [List.mem_cons, List.not_mem_nil, or_false]
    rintro (rfl | rfl | rfl) <;> decide
  rw [htable]
  unfold readSwitch?
  split_ifs with hon hoff
  · simp [hon, hdisjoint hon]
  · simp [hon, hoff]
  · simp [hon, hoff]

/-- No other command takes an argument. -/
theorem not_announced_of_ne {verb argument : String} {more : List String}
    (hmode : verb ≠ "mode") (hmitm : verb ≠ "mitm") (control : Control) :
    ¬Announced (verb :: argument :: more) control := by
  simp [Announced, announcements, hmode, hmitm]

/-! ## Lines -/

/-- A command with an argument is announced by the verb and the argument as it is heard. -/
theorem ofWords_eq_ok_iff {verb argument : String} {more : List String} {control : Control}
    (htrim : trim argument = argument) :
    ofWords (asciiLower verb) (some argument) = some (.ok control) ↔
      Announced (heard (verb :: argument :: more)) control := by
  simp only [ofWords, heard]
  split_ifs with hmode hmitm
  · -- The mode is trimmed and made small by its own reader.
    have hread (m : Mode) : Mode.parse argument = .ok m ↔ asciiLower argument = m.name := by
      rw [Mode.parse_eq_ok_iff, htrim]
    rw [announced_mode_iff]
    simp only [← hread]
    cases Mode.parse argument <;> simp [Except.map, eq_comm]
  · rw [announced_mitm_iff]
    cases readSwitch? argument <;> simp [eq_comm]
  · simp [not_announced_of_ne hmode hmitm]

/-- Lines are read by what is looked at of their words. -/
theorem parse_eq_ok_iff {line : String} {control : Control} :
    parse line = .ok control ↔ Announced (heard (words line)) control := by
  have hparse : parse line = .ok control ↔
      ofWords (asciiLower ((words line).headD "")) (words line).tail.head? =
        some (.ok control) := by
    change (ofWords (asciiLower ((words line).headD "")) (words line).tail.head?).getD _ = _ ↔ _
    cases ofWords (asciiLower ((words line).headD "")) (words line).tail.head? <;> simp
  have hword : ∀ word ∈ words line, trim word = word := fun word h =>
    trim_of_not_isBlank (mem_words h).2
  rw [hparse]
  rcases hwords : words line with _ | ⟨verb, _ | ⟨argument, more⟩⟩
  · exact iff_of_false (by simp [ofWords, asciiLower]) (not_announced_nil control)
  · exact announced_verb_iff.symm
  · exact ofWords_eq_ok_iff (hword argument (by simp [hwords]))

/-- Nothing comes after the argument of `mode` or `mitm`, and the one of `mitm` is in small
letters. -/
def IsTidy : List String → Prop
  | verb :: argument :: more =>
    (asciiLower verb = "mode" → more = []) ∧
      (asciiLower verb = "mitm" → more = [] ∧ asciiLower argument = argument)
  | _ => True

instance (spoken : List String) : Decidable (IsTidy spoken) :=
  match spoken with
  | [] => .isTrue trivial
  | [_] => .isTrue trivial
  | verb :: argument :: more =>
    inferInstanceAs (Decidable ((asciiLower verb = "mode" → more = []) ∧
      (asciiLower verb = "mitm" → more = [] ∧ asciiLower argument = argument)))

/-- Of tidy words all are looked at. -/
theorem announced_heard_iff {spoken : List String} (h : IsTidy spoken) (control : Control) :
    Announced (heard spoken) control ↔ Announced (spoken.map asciiLower) control := by
  rcases spoken with _ | ⟨verb, _ | ⟨argument, more⟩⟩
  · rfl
  · rfl
  · obtain ⟨hmore, hargument⟩ := h
    simp only [heard, List.map_cons]
    split_ifs with hmode hmitm
    · rw [hmode, hmore hmode, List.map_nil]
    · obtain ⟨hmore, hsmall⟩ := hargument hmitm
      rw [hmitm, hmore, hsmall, List.map_nil]
    · exact iff_of_false (not_announced_of_ne hmode hmitm control)
        (not_announced_of_ne hmode hmitm control)

/-- **The lines that are commands.** A line is read as the command that is announced by what is
looked at of its words. On tidy lines this is all of them, whatever the case of their letters. -/
theorem parse_announced (line : String) (control : Control) :
    (parse line = .ok control ↔ Announced (heard (words line)) control) ∧
      (IsTidy (words line) →
        (parse line = .ok control ↔ Announced ((words line).map asciiLower) control)) :=
  ⟨parse_eq_ok_iff, fun h => parse_eq_ok_iff.trans (announced_heard_iff h control)⟩

theorem parse_announced_modeGlobal :
    IsTidy (words "  MODE Global ") ∧ parse "  MODE Global " = .ok (.mode .global) ∧
      (words "  MODE Global ").map asciiLower = ["mode", "global"] := by
  have htidy : IsTidy (words "  MODE Global ") := by decide
  exact ⟨htidy, ((parse_announced "  MODE Global " (.mode .global)).2 htidy).2 (by decide),
    by decide⟩

/-- A word too many is not noticed after `mode`, and capitals after `mitm` are not understood. -/
theorem announced_misheard :
    (parse "mode global now" = .ok (.mode .global) ∧
        ∀ control, ¬Announced ((words "mode global now").map asciiLower) control) ∧
      parse "mitm ON" = .error (unknownMessage "mitm ON") ∧
        Announced ((words "mitm ON").map asciiLower) (.mitm true) := by
  have hnow : (words "mode global now").map asciiLower = ["mode", "global", "now"] := by decide
  refine ⟨⟨parse_eq_ok_iff.2 (by decide), fun control => ?_⟩, rfl, by decide⟩
  simp [hnow, Announced, announcements]

end Control

end ProxyControl
