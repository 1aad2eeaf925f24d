import ProxyControl.Command.Listing
import ProxyControl.Command.Workplace
import ProxyControl.Profile.Validation

/-!
# Commands on the saved profiles

Profiles are listed, deleted, and imported from a flat file. An import leaves out the profiles that
cannot be used and says so; the first one that cannot be saved ends it, and those before it stay
saved.

## Main definitions

* `listProfiles`, `deleteProfile`, `importProfiles`: the commands
-/

set_option autoImplicit false

namespace ProxyControl

/-- A command on the saved profiles, which ends where they cannot be read. -/
def withProfiles (w : Workplace) (d : Disk) (act : ProfileStore Disk → Disk → Outcome × Disk) :
    Outcome × Disk :=
  match ProfileStore.openOn w.backend d with
  | (.error e, d) => (.failure .silent (.store e), d)
  | (.ok store, d) => act store d

/-- The saved profiles, as an exported list or as a table. -/
def listProfiles (asExport : Bool) (w : Workplace) (d : Disk) : Outcome × Disk :=
  withProfiles w d fun store d =>
    let rows := summaries store.profiles
    (.success (if asExport then .line (exportText rows) else .lines (tableLines rows)), d)

/-- The profile for a server deleted. -/
def deleteProfile (server : String) (w : Workplace) (d : Disk) : Outcome × Disk :=
  withProfiles w d fun store d =>
    match store.delete server d with
    | (.error e, _, d) => (.failure .silent (.store e), d)
    | (.ok none, _, d) => (.failure .silent (.profile (.notFound server)), d)
    | (.ok (some _), _, d) => (.success (.line ("Deleted " ++ server)), d)

/-- What is said about a profile that an import leaves out. -/
def skipNotice (p : Profile) (e : ProfileError) : String :=
  "Skipping " ++ p.serverAddr ++ ": " ++ e.message

/-- Profiles saved one by one: what was printed, and how many were saved unless one could not be. -/
def saveAll : List Profile → ProfileStore Disk → Disk →
    (Console × Except StoreError Nat) × ProfileStore Disk × Disk
  | [], store, d => ((.silent, .ok 0), store, d)
  | p :: rest, store, d =>
    match p.validate with
    | .error e =>
      let ((printed, count), store, d) := saveAll rest store d
      (((Console.errors [skipNotice p e]).andThen printed, count), store, d)
    | .ok () =>
      match store.save p d with
      | (.error e, store, d) => ((.silent, .error e), store, d)
      | (.ok (), store, d) =>
        let ((printed, count), store, d) := saveAll rest store d
        ((printed, count.map (· + 1)), store, d)

/-- The profiles of a flat file imported. -/
def importProfiles (file : Option String) (fullEscaping : Bool) (w : Workplace) (d : Disk) :
    Outcome × Disk :=
  withProfiles w d fun store d =>
    let source := file.getD w.paths.flatFile
    let dialect := if fullEscaping then Dialect.full else .pipeOnly
    match ProfileStore.openOn (flatFile (w.path source) dialect) d with
    | (.error e, d) => (.failure .silent (.store e), d)
    | (.ok flat, d) =>
      match saveAll flat.profiles store d with
      | ((printed, .error e), _, d) => (.failure printed (.store e), d)
      | ((printed, .ok count), _, d) =>
        let summary := "Imported " ++ toString count ++ " profile(s) from " ++ source
        (.success (printed.andThen (.line summary)), d)

end ProxyControl
