import ProxyControl.Store.Paths
import ProxyControl.Store.Profiles
import ProxyControl.Store.Settings

/-!
# Where commands find their files

The saved profiles and the settings share one file. A path that is not absolute is seen from the
working directory.

## Main definitions

* `Workplace`: the working directory and the usual paths
* `Workplace.storeFile`, `Workplace.backend`: the file of the profiles and settings
-/

set_option autoImplicit false

namespace ProxyControl

/-- The working directory and the usual paths. -/
structure Workplace where
  /-- The working directory. -/
  workDir : Place
  /-- The usual paths. -/
  paths : ConfigPaths
  deriving DecidableEq, Repr

namespace Workplace

/-- The workplace of a command: below the directory that was given for the files, or else below a
home directory. -/
def choose (workDir : Place) (home : String) (configDir : Option String) : Workplace :=
  ⟨workDir, match configDir with
    | some dir => .inDir dir
    | none => .ofHome home⟩

/-- The path that some text gives. -/
def path (w : Workplace) (text : String) : FilePath := ⟨text, w.workDir⟩

/-- The file of the profiles and settings. -/
def storeFile (w : Workplace) : DocumentFile := ⟨w.path w.paths.store, .pretty⟩

/-- Where the profiles are kept. -/
def backend (w : Workplace) : Backend Disk := sectionFile w.storeFile

/-- The route list that settings choose. -/
def routeList (w : Workplace) (s : Settings) (d : Disk) : String × Disk :=
  loadRouteList (w.path (s.routeListPath w.paths)) d

end Workplace

end ProxyControl
