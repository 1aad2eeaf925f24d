import ProxyControl.Files.Disk

/-!
# Schedules of faults

A disk takes one entry of its schedule at each step, and so what is done to it leaves an end of the
schedule. A schedule is honest where no step is told without cause that there is no file. A reader
takes that answer for an empty file, and what it then writes would be all that the file has.

## Main definitions

* `Disk.IsHonest`: no fault reports that there is no file

## Main results

* `Disk.faults_writeAtomic`: a file that is replaced leaves an end of the schedule
* `Disk.IsHonest.of_suffix`: an end of an honest schedule is honest
-/

set_option autoImplicit false

namespace ProxyControl

namespace Disk

/-- No fault reports that there is no file. -/
def IsHonest (d : Disk) : Prop := ∀ f, some f ∈ d.faults → f.error ≠ .notFound

theorem IsHonest.of_suffix {d d' : Disk} (h : d.IsHonest) (hs : d'.faults <:+ d.faults) :
    d'.IsHonest :=
  fun f hf => h f (hs.subset hf)

/-- A step takes the first entry of the schedule. -/
theorem faults_step {α : Type} (act : Option Fault → FileTree → Except IoError α × FileTree)
    (d : Disk) : (d.step act).2.faults <:+ d.faults :=
  List.tail_suffix d.faults

theorem faults_createDir (path : FilePath) (d : Disk) :
    (d.createDir path).2.faults <:+ d.faults :=
  faults_step _ d

theorem faults_createFirst (paths : List FilePath) (d : Disk) :
    (createFirst paths d).2.faults <:+ d.faults := by
  induction paths generalizing d with
  | nil => exact List.suffix_rfl
  | cons path ancestors ih =>
    have hstep := faults_createDir path d
    rw [createFirst]
    rcases hc : d.createDir path with ⟨e | ⟨⟩, d₁⟩ <;> rw [hc] at hstep
    · dsimp only
      split
      · have hrest := (ih d₁).trans hstep
        rcases hr : createFirst ancestors d₁ with ⟨_ | missing, d₂⟩ <;> rw [hr] at hrest
        · exact hrest
        · exact hrest
      · split
        · exact hstep
        · exact hstep
    · exact hstep

theorem faults_createMissing (paths : List FilePath) (d : Disk) :
    (createMissing paths d).2.faults <:+ d.faults := by
  induction paths generalizing d with
  | nil => exact List.suffix_rfl
  | cons path rest ih =>
    have hstep := faults_createDir path d
    rw [createMissing]
    rcases hc : d.createDir path with ⟨e | ⟨⟩, d₁⟩ <;> rw [hc] at hstep
    · dsimp only
      split
      · exact (ih d₁).trans hstep
      · exact hstep
    · exact (ih d₁).trans hstep

theorem faults_createDirs (path : FilePath) (d : Disk) :
    (d.createDirs path).2.faults <:+ d.faults := by
  have hfirst := faults_createFirst path.ancestors d
  rw [createDirs]
  rcases hc : createFirst path.ancestors d with ⟨e | missing, d₁⟩ <;> rw [hc] at hfirst
  · exact hfirst
  · exact (faults_createMissing _ d₁).trans hfirst

theorem faults_createParents (path : FilePath) (d : Disk) :
    (d.createParents path).2.faults <:+ d.faults :=
  faults_createDirs _ d

theorem faults_write (path : FilePath) (bytes : ByteArray) (d : Disk) :
    (d.write path bytes).2.faults <:+ d.faults :=
  faults_step _ d

theorem faults_rename (source target : FilePath) (d : Disk) :
    (d.rename source target).2.faults <:+ d.faults :=
  faults_step _ d

theorem faults_remove (path : FilePath) (d : Disk) : (d.remove path).2.faults <:+ d.faults :=
  faults_step _ d

/-- What replaces a file leaves an end of the schedule, however far it comes. -/
theorem faults_writeAtomic (path : FilePath) (bytes : ByteArray) (d : Disk) :
    (d.writeAtomic path bytes).2.faults <:+ d.faults := by
  have hparents := faults_createParents path d
  unfold writeAtomic
  rcases hp : d.createParents path with ⟨e | _, d₁⟩ <;> rw [hp] at hparents
  · exact hparents
  · have hwrite := faults_write (tempPath path) bytes d₁
    rcases hw : d₁.write (tempPath path) bytes with ⟨e | _, d₂⟩ <;> rw [hw] at hwrite
    · simp only [hw]
      exact hwrite.trans hparents
    · have hmove := faults_rename (tempPath path) path d₂
      rcases hr : d₂.rename (tempPath path) path with ⟨e | _, d₃⟩ <;> rw [hr] at hmove
      · have hremove := faults_remove (tempPath path) d₃
        simp only [hw, hr]
        exact hremove.trans (hmove.trans (hwrite.trans hparents))
      · simp only [hw, hr]
        exact hmove.trans (hwrite.trans hparents)

end Disk

end ProxyControl
