import ProxyControl.Proofs.Files.Replacement
import ProxyControl.Proofs.Line.RoundTrip
import ProxyControl.Proofs.Store.Persistence
import ProxyControl.Proofs.Text.Pieces

/-!
# Flat files read back

A flat file of full lines is read back as the profiles that were written to it, in their order and
with repeated servers. No line holds a line feed or a carriage return, whatever its fields hold, so
the text of the file has the lines that it was put together from; none of them is blank, as a bar
stands in each; and each is read as its profile.

## Main results

* `profilesOfText_textOfProfiles`: the profiles of a text that was written from profiles
* `readAll_of_writeAll`: a flat file that was written is read back, and opened as it was written
-/

set_option autoImplicit false

namespace ProxyControl

open Text

/-! ## The text of a file -/

/-- A line holds bars, whatever its fields hold. -/
theorem Profile.bar_mem_toLine (dialect : Dialect) (p : Profile) :
    '|' ∈ (p.toLine dialect).toList := by
  rw [toLine, String.toList_ofList]
  simp [Dialect.joinChars, lineFields]

theorem Profile.not_isBlank_toLine (dialect : Dialect) (p : Profile) :
    (p.toLine dialect).toList.all isBlank = false := by
  refine List.all_eq_false.2 ⟨'|', p.bar_mem_toLine dialect, ?_⟩
  decide

/-- The lines of a text that was written from profiles are those of the profiles. -/
theorem lines_textOfProfiles (profiles : List Profile) :
    lines (textOfProfiles .full profiles).toList =
      profiles.map fun p => (p.toLine .full).toList := by
  have hends (p : Profile) := Dialect.notMem_joinChars p.lineFields
  have hn : ∀ l ∈ profiles.map fun p => (p.toLine .full).toList, '\n' ∉ l := by
    intro l hl
    obtain ⟨p, -, rfl⟩ := List.mem_map.1 hl
    rw [Profile.toLine, String.toList_ofList]
    exact (hends p).1
  have hr : ∀ l ∈ profiles.map fun p => (p.toLine .full).toList, dropCarriageReturn l = l := by
    intro l hl
    obtain ⟨p, -, rfl⟩ := List.mem_map.1 hl
    rw [Profile.toLine, String.toList_ofList]
    exact dropCarriageReturn_of_notMem (hends p).2
  have hlines := lines_flatMap hn hr
  rw [List.flatMap_map] at hlines
  rw [textOfProfiles, String.toList_ofList]
  exact hlines

/-- **Profiles with servers are read back from the text** that is written from them. -/
theorem profilesOfText_textOfProfiles {profiles : List Profile}
    (h : ∀ p ∈ profiles, p.serverAddr ≠ "") :
    profilesOfText .full (textOfProfiles .full profiles) = profiles := by
  rw [profilesOfText, lines_textOfProfiles]
  induction profiles with
  | nil => rfl
  | cons p profiles ih =>
    have hline := (p.ofLine?_toLine).1
    rw [if_neg (h p List.mem_cons_self)] at hline
    rw [List.map_cons, List.filter_cons_of_pos (by simp [p.not_isBlank_toLine]),
      List.filterMap_cons_some (by rw [String.ofList_toList, hline]),
      ih fun q hq => h q (List.mem_cons_of_mem p hq)]

/-! ## The file -/

/-- A file is read as text, where the read is not cut short and its bytes are those of a text. -/
theorem DocumentFile.readText_of_read? {path : FilePath} {text : String} {d : Disk}
    (hf : d.faults.head?.getD none = none) (hb : d.tree.read? path = .ok text.toUTF8) :
    (readText path d).1 = .ok (some text) := by
  have hr : (d.read path).1 = .ok text.toUTF8 := by
    simp only [Disk.read, Disk.step, hf, hb]
  rcases hd : d.read path with ⟨answer, e⟩
  rw [hd] at hr
  obtain rfl : answer = .ok text.toUTF8 := hr
  simp only [readText, hd, decode_encode]

/-- **A flat file that was written is read back.** Whatever the fields of the profiles hold, a read
that is not cut short finds all of them, in their order; and where no two are for one server and a
store can hold them, a store that is opened on the file has them. -/
theorem readAll_of_writeAll {path : FilePath} {profiles : List Profile} {d d' e : Disk}
    (hn : ∀ p ∈ profiles, p.serverAddr ≠ "")
    (hw : (flatFile path .full).writeAll profiles d = (.ok (), d'))
    (ht : e.tree = d'.tree) (hf : e.faults.head?.getD none = none) :
    ((flatFile path .full).readAll e).1 = .ok profiles ∧
      ((profiles.map (·.serverAddr)).Nodup → profiles.length ≤ maxProfiles →
        (ProfileStore.openOn (flatFile path .full) e).1 =
          .ok ⟨flatFile path .full, profiles⟩) := by
  have hbytes : e.tree.read? path = .ok (textOfProfiles .full profiles).toUTF8 := by
    rw [ht]
    exact Disk.read?_of_writeAtomic hw
  have htext := DocumentFile.readText_of_read? hf hbytes
  rcases hr : DocumentFile.readText path e with ⟨answer, e'⟩
  rw [hr] at htext
  obtain rfl : answer = .ok (some (textOfProfiles .full profiles)) := htext
  have hread : (flatFile path .full).readAll e = (.ok profiles, e') := by
    simp only [flatFile, hr, profilesOfText_textOfProfiles hn]
  refine ⟨by rw [hread], fun hd hl => ?_⟩
  have hset : ProfileStore.workingSet profiles = profiles :=
    IsWorkingSet.workingSet_eq ⟨hd, hn, hl⟩
  simp only [ProfileStore.openOn, ProfileStore.load, ProfileStore.ofBackend, hread, hset]

/-- Profiles whose fields hold bars, backslashes and line ends. -/
def oddProfiles : List Profile :=
  [{ Profile.new "a|\\r\n" with key := "\r", domain := "\n\n" },
    { Profile.new "\r" with localAddr := "\\", authPass := "\\n|\r\n" }]

def oddFile : Backend Disk := flatFile ⟨"d/s.txt", []⟩ .full

/-- The profiles are read back, also where each of them is written twice; written once they are what
a store has that is opened on the file. -/
theorem readAll_oddProfiles :
    (oddFile.readAll (oddFile.writeAll (oddProfiles ++ oddProfiles) (.ofTree .empty)).2).1 =
        .ok (oddProfiles ++ oddProfiles) ∧
      (ProfileStore.openOn oddFile (oddFile.writeAll oddProfiles (.ofTree .empty)).2).1 =
        .ok ⟨oddFile, oddProfiles⟩ := by
  have hwritten (profiles : List Profile)
      (h : (oddFile.writeAll profiles (.ofTree .empty)).1.toOption = some ()) :
      oddFile.writeAll profiles (.ofTree .empty) =
        (.ok (), (oddFile.writeAll profiles (.ofTree .empty)).2) :=
    Prod.ext (eq_ok_of_toOption h) rfl
  constructor
  · exact (readAll_of_writeAll (by decide) (hwritten _ (by decide +kernel)) rfl
      (by decide +kernel)).1
  · exact (readAll_of_writeAll (by decide) (hwritten _ (by decide +kernel)) rfl
      (by decide +kernel)).2 (by decide) (by decide)

end ProxyControl
