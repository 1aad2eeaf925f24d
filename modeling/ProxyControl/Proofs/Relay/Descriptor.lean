import ProxyControl.Relay.Target
import ProxyControl.Proofs.Text.Words
import Mathlib.Data.List.Induction
import Mathlib.Data.Nat.Digits.Defs

/-!
# Relay descriptors

A descriptor is read by its fields, which are the texts between its commas without the blanks around
them. Two or three of them with a host first and the marker last ask for the address of the host;
two of them with a host first and a port second ask for a connection. No text is both the marker and
a port, so it does not matter which of the two is looked for first. Of all other descriptors those
of two fields with a host are told that the second one is no port, and the others that they are
malformed.

A port is written in decimal digits, as many as one likes, with or without a plus sign before them.

## Main definitions

* `Text.Writes`: the number that some text writes
* `RelayTarget.AsksAddress`, `RelayTarget.AsksConnection`, `RelayTarget.LacksPort`: what the fields
  of a descriptor stand for

## Main results

* `Text.readUnsigned?_eq_some_iff`: the texts that are read as a number
* `RelayTarget.fields_eq`: the fields of a descriptor
* `RelayTarget.parse_descriptor`: what each descriptor is read as
-/

set_option autoImplicit false

namespace ProxyControl

namespace Text

/-! ## Numbers in decimal -/

/-- The number that decimal digits denote. -/
def denoted (digits : List Char) : Nat :=
  Nat.ofDigits 10 (digits.reverse.map fun c => c.toNat - '0'.toNat)

/-- Whether some text writes a number: decimal digits that denote it, perhaps with a plus sign before
them. -/
def Writes (text : List Char) (n : Nat) : Prop :=
  ∃ digits, (text = digits ∨ text = '+' :: digits) ∧ digits ≠ [] ∧
    (∀ c ∈ digits, c.isDigit = true) ∧ denoted digits = n

theorem ofDigitChars_concat (digits : List Char) (c : Char) (n : Nat) :
    Nat.ofDigitChars 10 (digits ++ [c]) n =
      10 * Nat.ofDigitChars 10 digits n + (c.toNat - '0'.toNat) := by
  rw [Nat.ofDigitChars, List.foldl_append]
  rfl

theorem denoted_concat (digits : List Char) (c : Char) :
    denoted (digits ++ [c]) = 10 * denoted digits + (c.toNat - '0'.toNat) := by
  rw [denoted, List.reverse_append, List.reverse_singleton, List.singleton_append, List.map_cons,
    Nat.ofDigits_cons, ← denoted]
  exact Nat.add_comm _ _

/-- Digits are read one by one as the number that they denote together. -/
theorem ofDigitChars_eq_denoted (digits : List Char) :
    Nat.ofDigitChars 10 digits 0 = denoted digits := by
  induction digits using List.reverseRecOn with
  | nil => rfl
  | append_singleton digits c ih => rw [ofDigitChars_concat, ih, denoted_concat]

theorem readNat?_eq_some_iff {digits : List Char} {n : Nat} :
    readNat? digits = some n ↔
      digits ≠ [] ∧ (∀ c ∈ digits, c.isDigit = true) ∧ denoted digits = n := by
  unfold readNat?
  split
  · next h =>
    rw [ofDigitChars_eq_denoted, Option.some_inj]
    have hall := List.all_eq_true.1 h.2
    exact ⟨fun hn => ⟨h.1, hall, hn⟩, fun hread => hread.2.2⟩
  · next h =>
    refine iff_of_false (by simp) fun hread => h ?_
    exact ⟨hread.1, List.all_eq_true.2 hread.2.1⟩

/-- A plus sign is no digit, so it can only stand before them. -/
theorem readNat?_plus (digits : List Char) : readNat? ('+' :: digits) = none := by
  refine if_neg fun h => ?_
  exact absurd (List.all_eq_true.1 h.2 '+' List.mem_cons_self) (by decide)

/-- **The texts that are read as a number** are those that write it, up to the largest one. -/
theorem readUnsigned?_eq_some_iff {largest n : Nat} {text : List Char} :
    readUnsigned? largest text = some n ↔ Writes text n ∧ n ≤ largest := by
  have hwrites : Writes text n ↔
      ∃ digits, (text = digits ∨ text = '+' :: digits) ∧ readNat? digits = some n := by
    simp only [Writes, readNat?_eq_some_iff]
  rw [hwrites]
  unfold readUnsigned?
  split
  · next digits =>
    rw [Option.filter_eq_some_iff, decide_eq_true_eq]
    refine and_congr_left fun _ => ⟨fun h => ⟨digits, .inr rfl, h⟩, ?_⟩
    rintro ⟨digits', rfl | htext, h⟩
    · rw [readNat?_plus] at h
      cases h
    · rwa [(List.cons.inj htext).2]
  · next hplus =>
    rw [Option.filter_eq_some_iff, decide_eq_true_eq]
    refine and_congr_left fun _ => ⟨fun h => ⟨text, .inl rfl, h⟩, ?_⟩
    rintro ⟨digits, rfl | htext, h⟩
    · exact h
    · exact absurd htext (hplus digits)

/-- A digit has no case. -/
theorem toLower_of_isDigit {c : Char} (h : c.isDigit = true) : c.toLower = c := by
  unfold Char.toLower
  rw [dif_neg]
  rintro ⟨hcapital, -⟩
  have hnine : c.toNat ≤ 57 := of_decide_eq_true (Bool.and_eq_true_iff.1 h).2
  have hletter : 65 ≤ c.toNat := hcapital
  omega

end Text

namespace RelayTarget

open Text

/-! ## Fields -/

/-- **The fields of a descriptor** are what stands between its commas, without the blanks around
it. -/
theorem fields_eq (raw : String) : fields raw = (raw.toList.splitOn ',').map trimChars := by
  rw [fields, splitWhere_eq_splitOnP]
  rfl

/-- A host and what follows a comma after it are two fields. -/
theorem fields_pair {host text : List Char} (hhost : ',' ∉ host) (htext : ',' ∉ text) :
    fields (String.ofList (host ++ ',' :: text)) = [trimChars host, trimChars text] := by
  have hsplit : ([','].intercalate [host, text]).splitOn ',' = [host, text] :=
    List.splitOn_intercalate ',' (by simp [hhost, htext]) (List.cons_ne_nil _ _)
  have hjoin : [','].intercalate [host, text] = host ++ ',' :: text := by simp
  rw [fields_eq, String.toList_ofList, ← hjoin, hsplit]
  rfl

/-! ## What fields stand for -/

/-- Whether a text is the marker, in any case. -/
def IsMarker (text : List Char) : Prop := text.map Char.toLower = ['d', 'n', 's']

/-- Whether a text writes a port. -/
def WritesPort (text : List Char) (port : Nat) : Prop := Writes text port ∧ 1 ≤ port ∧ port ≤ 65535

/-- Whether fields ask for the address of a host: there are two or three of them, the host first and
the marker last. -/
def AsksAddress (fs : List (List Char)) (host : List Char) : Prop :=
  ∃ last, (fs = [host, last] ∨ ∃ middle, fs = [host, middle, last]) ∧ host ≠ [] ∧
    IsMarker last

/-- Whether fields ask for a connection: there are two of them, a host and a port. -/
def AsksConnection (fs : List (List Char)) (host : List Char) (port : Nat) : Prop :=
  ∃ text, fs = [host, text] ∧ host ≠ [] ∧ WritesPort text port

/-- Whether there are a host and a second field, which is neither the marker nor a port. -/
def LacksPort (fs : List (List Char)) (text : List Char) : Prop :=
  ∃ host, fs = [host, text] ∧ host ≠ [] ∧ ¬IsMarker text ∧ ∀ port, ¬WritesPort text port

theorem isMarker_iff (text : List Char) : isMarker text = true ↔ IsMarker text := beq_iff_eq

theorem readPort?_eq_some_iff {text : List Char} {port : Nat} :
    readPort? text = some port ↔ WritesPort text port := by
  rw [readPort?, Option.filter_eq_some_iff, readUnsigned?_eq_some_iff, decide_eq_true_eq,
    WritesPort, and_assoc, Nat.one_le_iff_ne_zero]
  exact and_congr_right fun _ => and_comm

/-- No text is both the marker and a port. -/
theorem not_isMarker_of_writesPort {text : List Char} {port : Nat} (h : WritesPort text port) :
    ¬IsMarker text := by
  obtain ⟨⟨digits, htext, hne, hdigits, -⟩, -⟩ := h
  obtain ⟨c, digits, rfl⟩ := List.exists_cons_of_ne_nil hne
  intro hmarker
  rcases htext with rfl | rfl
  · have hc := hdigits c List.mem_cons_self
    have hd : c.toLower = 'd' := (List.cons.inj hmarker).1
    rw [toLower_of_isDigit hc] at hd
    subst hd
    cases hc
  · exact absurd (List.cons.inj hmarker).1 (by decide)

variable {raw : String} {fs : List (List Char)} {host text : List Char}

/-- Fields that ask for an address ask for no connection, and nothing is missing in them. -/
theorem AsksAddress.exclusive (h : AsksAddress fs host) :
    (∀ host port, ¬AsksConnection fs host port) ∧ ∀ text, ¬LacksPort fs text := by
  obtain ⟨last, rfl | ⟨middle, rfl⟩, -, hmarker⟩ := h
  · constructor
    · rintro host port ⟨text, htext, -, hport⟩
      cases htext
      exact not_isMarker_of_writesPort hport hmarker
    · rintro text ⟨host, htext, -, hnot, -⟩
      cases htext
      exact hnot hmarker
  · exact ⟨(fun _ _ ⟨_, h, _⟩ => by cases h), (fun _ ⟨_, h, _⟩ => by cases h)⟩

theorem AsksAddress.eq {other : List Char} (h : AsksAddress fs host)
    (h' : AsksAddress fs other) : host = other := by
  obtain ⟨_, rfl | ⟨_, rfl⟩, -⟩ := h <;> obtain ⟨_, h' | ⟨_, h'⟩, -⟩ := h' <;> cases h' <;> rfl

theorem AsksConnection.not_lacksPort {port : Nat} (h : AsksConnection fs host port) :
    ∀ text, ¬LacksPort fs text := by
  obtain ⟨text, rfl, -, hport⟩ := h
  rintro text' ⟨host, htext, -, -, hnone⟩
  cases htext
  exact hnone port hport

theorem AsksConnection.eq {other : List Char} {port port' : Nat}
    (h : AsksConnection fs host port) (h' : AsksConnection fs other port') :
    host = other ∧ port = port' := by
  obtain ⟨text, rfl, -, hport⟩ := h
  obtain ⟨text', htext, -, hport'⟩ := h'
  cases htext
  rw [← readPort?_eq_some_iff] at hport hport'
  exact ⟨rfl, Option.some.inj (hport.symm.trans hport')⟩

theorem LacksPort.eq {other : List Char} (h : LacksPort fs text)
    (h' : LacksPort fs other) : text = other := by
  obtain ⟨_, rfl, -⟩ := h
  obtain ⟨_, h', -⟩ := h'
  cases h'
  rfl

/-! ## Descriptors -/

/-- What a descriptor with some fields is to be read as. -/
inductive Reading (raw : String) (fs : List (List Char)) :
    Except RelayError RelayTarget → Prop
  | resolve {host : String} (h : AsksAddress fs host.toList) :
      Reading raw fs (.ok (.resolve host))
  | connect {host : String} {port : Nat} (h : AsksConnection fs host.toList port) :
      Reading raw fs (.ok (.connect host port))
  | invalidPort {text : String} (h : LacksPort fs text.toList) :
      Reading raw fs (.error (.invalidPort text))
  | malformed (haddress : ∀ host, ¬AsksAddress fs host)
      (hconnection : ∀ host port, ¬AsksConnection fs host port)
      (hport : ∀ text, ¬LacksPort fs text) :
      Reading raw fs (.error (.malformedTarget raw))

/-- There is one way to read a descriptor. -/
theorem Reading.eq {result other : Except RelayError RelayTarget}
    (h : Reading raw fs result) (h' : Reading raw fs other) : result = other := by
  cases h with
  | resolve h =>
    cases h' with
    | resolve h' => rw [String.toList_inj.1 (h.eq h')]
    | connect h' => exact absurd h' (h.exclusive.1 _ _)
    | invalidPort h' => exact absurd h' (h.exclusive.2 _)
    | malformed h' => exact absurd h (h' _)
  | connect h =>
    cases h' with
    | resolve h' => exact absurd h (h'.exclusive.1 _ _)
    | connect h' => rw [String.toList_inj.1 (h.eq h').1, (h.eq h').2]
    | invalidPort h' => exact absurd h' (h.not_lacksPort _)
    | malformed _ h' => exact absurd h (h' _ _)
  | invalidPort h =>
    cases h' with
    | resolve h' => exact absurd h (h'.exclusive.2 _)
    | connect h' => exact absurd h (h'.not_lacksPort _)
    | invalidPort h' => rw [String.toList_inj.1 (h.eq h')]
    | malformed _ _ h' => exact absurd h (h' _)
  | malformed haddress hconnection hport =>
    cases h' with
    | resolve h' => exact absurd h' (haddress _)
    | connect h' => exact absurd h' (hconnection _ _)
    | invalidPort h' => exact absurd h' (hport _)
    | malformed => rfl

/-- A descriptor without two or three fields, or without a host, is malformed. -/
theorem Reading.of_no_host (h : ∀ host second more, fs = host :: second :: more →
    host ≠ [] → 2 ≤ more.length) : Reading raw fs (.error (.malformedTarget raw)) := by
  refine .malformed ?_ ?_ ?_
  · rintro host ⟨last, rfl | ⟨middle, rfl⟩, hhost, -⟩
    · exact absurd (h _ _ _ rfl hhost) (by simp)
    · exact absurd (h _ _ _ rfl hhost) (by simp)
  · rintro host port ⟨text, rfl, hhost, -⟩
    exact absurd (h _ _ _ rfl hhost) (by simp)
  · rintro text ⟨host, rfl, hhost, -⟩
    exact absurd (h _ _ _ rfl hhost) (by simp)

theorem Reading.resolve_ofList (h : AsksAddress fs host) :
    Reading raw fs (.ok (.resolve (String.ofList host))) :=
  .resolve (by rwa [String.toList_ofList])

theorem Reading.connect_ofList {port : Nat} (h : AsksConnection fs host port) :
    Reading raw fs (.ok (.connect (String.ofList host) port)) :=
  .connect (by rwa [String.toList_ofList])

theorem Reading.invalidPort_ofList (h : LacksPort fs text) :
    Reading raw fs (.error (.invalidPort (String.ofList text))) :=
  .invalidPort (by rwa [String.toList_ofList])

/-- **Descriptors are read as they are to be read.** -/
theorem reading_parse (raw : String) : Reading raw (fields raw) (parse raw) := by
  unfold parse
  split
  · next host second hfields =>
    rw [hfields]
    split
    · next hhost => exact .of_no_host fun h s m hf hne => by cases hf; exact absurd hhost hne
    · next hhost =>
      split
      · next hmarker =>
        exact .resolve_ofList ⟨second, .inl rfl, hhost, (isMarker_iff second).1 hmarker⟩
      · next hmarker =>
        split
        · next port hport =>
          exact .connect_ofList ⟨second, rfl, hhost, readPort?_eq_some_iff.1 hport⟩
        · next hport =>
          refine .invalidPort_ofList ⟨host, rfl, hhost, mt (isMarker_iff second).2 hmarker, ?_⟩
          intro port hwrites
          rw [readPort?_eq_some_iff.2 hwrites] at hport
          cases hport
  · next host middle third hfields =>
    rw [hfields]
    split
    · next h => exact .resolve_ofList ⟨third, .inr ⟨middle, rfl⟩, h.1, (isMarker_iff third).1 h.2⟩
    · next h =>
      refine .malformed ?_ (fun _ _ ⟨_, h, _⟩ => by cases h) (fun _ ⟨_, h, _⟩ => by cases h)
      rintro other ⟨last, hlast | ⟨_, hlast⟩, hhost, hmarker⟩
      · cases hlast
      · cases hlast
        exact h ⟨hhost, (isMarker_iff third).2 hmarker⟩
  · next htwo hthree =>
    refine .of_no_host fun host second more hf _ => ?_
    match more with
    | [] => exact absurd hf (htwo host second)
    | [third] => exact absurd hf (hthree host second third)
    | _ :: _ :: more => simp

/-- A descriptor is read in one way, by its fields. -/
theorem parse_eq_iff {result : Except RelayError RelayTarget} :
    parse raw = result ↔ Reading raw ((raw.toList.splitOn ',').map trimChars) result := by
  rw [← fields_eq]
  exact ⟨fun h => h ▸ reading_parse raw, fun h => (reading_parse raw).eq h⟩

/-- A port has no blanks and no comma in it. -/
theorem WritesPort.plain {port : Nat} (h : WritesPort text port) :
    (∀ c ∈ text, isBlank c = false) ∧ ',' ∉ text := by
  obtain ⟨⟨digits, htext, -, hdigits, -⟩, -⟩ := h
  have hchars : ∀ c ∈ text, c.isDigit = true ∨ c = '+' := by
    rcases htext with rfl | rfl
    · exact fun c hc => .inl (hdigits c hc)
    · intro c hc
      rcases List.mem_cons.1 hc with rfl | hc
      · exact .inr rfl
      · exact .inl (hdigits c hc)
  refine ⟨fun c hc => ?_, fun hcomma => absurd (hchars ',' hcomma) (by decide)⟩
  rcases hchars c hc with hdigit | rfl
  · exact not_isBlank_of_isDigit hdigit
  · decide

/-- Every port is written by its digits. -/
theorem writesPort_decimal {port : Nat} (hlow : 1 ≤ port) (hhigh : port ≤ 65535) :
    WritesPort (decimal port) port :=
  ⟨(readUnsigned?_eq_some_iff.1 (readUnsigned?_decimal hhigh)).1, hlow, hhigh⟩

/-- **What each descriptor is read as.** It asks for an address, or for a connection, or has no port
where one is asked for, or is malformed, as its fields tell. So a host with a port after a comma is
read as that host and that port, however the port is written; its digits are one way to write it. -/
theorem parse_descriptor :
    (∀ raw : String,
      let fs := (raw.toList.splitOn ',').map trimChars
      (∀ host : String, parse raw = .ok (.resolve host) ↔ AsksAddress fs host.toList) ∧
      (∀ (host : String) (port : Nat),
        parse raw = .ok (.connect host port) ↔ AsksConnection fs host.toList port) ∧
      (∀ text : String, parse raw = .error (.invalidPort text) ↔ LacksPort fs text.toList) ∧
      (parse raw = .error (.malformedTarget raw) ↔
        (∀ host, ¬AsksAddress fs host) ∧ (∀ host port, ¬AsksConnection fs host port) ∧
          ∀ text, ¬LacksPort fs text)) ∧
    (∀ (host text : String) (port : Nat), host ≠ "" → trim host = host → ',' ∉ host.toList →
      WritesPort text.toList port → parse (host ++ "," ++ text) = .ok (.connect host port)) ∧
    ∀ port : Nat, 1 ≤ port → port ≤ 65535 → WritesPort (decimal port) port := by
  refine ⟨?_, ?_, fun port => writesPort_decimal⟩
  · intro raw fs
    refine ⟨fun host => ?_, fun host port => ?_, fun text => ?_, ?_⟩
    · exact parse_eq_iff.trans ⟨fun | .resolve h => h, .resolve⟩
    · exact parse_eq_iff.trans ⟨fun | .connect h => h, .connect⟩
    · exact parse_eq_iff.trans ⟨fun | .invalidPort h => h, .invalidPort⟩
    · refine parse_eq_iff.trans ⟨fun | .malformed haddress hconnection hport => ?_, ?_⟩
      · exact ⟨haddress, hconnection, hport⟩
      · exact fun ⟨haddress, hconnection, hport⟩ => .malformed haddress hconnection hport
  · intro host text port hne htrim hcomma hport
    obtain ⟨hblank, htext⟩ := hport.plain
    have hhost : trimChars host.toList = host.toList := by
      simpa [trim] using congrArg String.toList htrim
    have hraw : host ++ "," ++ text = String.ofList (host.toList ++ ',' :: text.toList) :=
      String.toList_inj.1 (by simp)
    refine parse_eq_iff.2 (.connect ⟨text.toList, ?_, ?_, hport⟩)
    · rw [hraw, ← fields_eq, fields_pair hcomma htext, hhost, trimChars_of_not_isBlank hblank]
    · simpa using hne

/-- A port of more digits than it needs, after a plus sign. -/
theorem parse_descriptor_paddedPort : "example.com" ≠ "" ∧ trim "example.com" = "example.com" ∧
    ',' ∉ "example.com".toList ∧ WritesPort "+000443".toList 443 ∧
    parse ("example.com" ++ "," ++ "+000443") = .ok (.connect "example.com" 443) := by
  have hne : "example.com" ≠ "" := by decide
  have htrim : trim "example.com" = "example.com" := by decide
  have hcomma : ',' ∉ "example.com".toList := by decide
  have hport : WritesPort "+000443".toList 443 :=
    ⟨⟨"000443".toList, .inr rfl, by decide, List.all_eq_true.1 (by decide), by decide⟩,
      by decide, by decide⟩
  exact ⟨hne, htrim, hcomma, hport, parse_descriptor.2.1 _ _ _ hne htrim hcomma hport⟩

/-- What stands between a host and the marker means nothing, and a third field has to be it. -/
example : parse "h, ,DnS" = .ok (.resolve "h") ∧
    parse "h,80,tcp" = .error (.malformedTarget "h,80,tcp") := by decide

end RelayTarget

end ProxyControl
