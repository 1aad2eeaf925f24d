import ProxyControl.Store.Backend
import ProxyControl.Text.Quoted

/-!
# The saved profiles

The store holds the working set of profiles, at most one for a server, and keeps it in a backend.
Each change writes the complete set first, and takes effect only when that has succeeded.

## Main definitions

* `ProfileStore`: the working set and its backend
* `ProfileStore.load`, `ProfileStore.save`, `ProfileStore.delete`: changes
* `upsert`: a list of profiles with one profile added or replaced
* `firstOfEach`: the first profile for each server
-/

set_option autoImplicit false

namespace ProxyControl

/-- The working set of profiles and where it is kept. -/
structure ProfileStore (W : Type) where
  /-- Where the profiles are kept. -/
  backend : Backend W
  /-- The working set. -/
  profiles : List Profile

/-- How many profiles a store holds at most. -/
def maxProfiles : Nat := 1000

/-- The first profile for each server that is not among `seen`. -/
def firstOfEachFrom (seen : List String) : List Profile → List Profile
  | [] => []
  | p :: rest =>
    if p.serverAddr ∈ seen then firstOfEachFrom seen rest
    else p :: firstOfEachFrom (p.serverAddr :: seen) rest

/-- The first profile for each server. -/
def firstOfEach (profiles : List Profile) : List Profile := firstOfEachFrom [] profiles

/-- The profile for a server. -/
def findProfile? (profiles : List Profile) (server : String) : Option Profile :=
  profiles.find? fun p => p.serverAddr = server

/-- The profiles with `profile` in place of the first one for its server, or at the end. -/
def upsert (profile : Profile) : List Profile → List Profile
  | [] => [profile]
  | p :: rest =>
    if p.serverAddr = profile.serverAddr then profile :: rest else p :: upsert profile rest

/-- The profiles without the first one for a server. -/
def removeServer (server : String) (profiles : List Profile) : List Profile :=
  profiles.eraseP fun p => p.serverAddr = server

namespace ProfileStore

variable {W : Type}

/-- A store with nothing loaded yet. -/
def ofBackend (b : Backend W) : ProfileStore W := ⟨b, []⟩

/-- The working set that a backend's profiles become: the first for each server, up to the number
that a store holds. -/
def workingSet (profiles : List Profile) : List Profile :=
  (firstOfEach profiles).take maxProfiles

/-- The working set read anew. -/
def load (s : ProfileStore W) (w : W) : Except StoreError Unit × ProfileStore W × W :=
  match s.backend.readAll w with
  | (.error e, w) => (.error e, s, w)
  | (.ok profiles, w) => (.ok (), { s with profiles := workingSet profiles }, w)

/-- A store with the profiles of a backend. -/
def openOn (b : Backend W) (w : W) : Except StoreError (ProfileStore W) × W :=
  match (ofBackend b).load w with
  | (.error e, _, w) => (.error e, w)
  | (.ok (), s, w) => (.ok s, w)

/-- The profile for a server. -/
def get? (s : ProfileStore W) (server : String) : Option Profile := findProfile? s.profiles server

/-- The working set kept as `next`, if the backend takes it. -/
def commit (s : ProfileStore W) (next : List Profile) (w : W) :
    Except StoreError Unit × ProfileStore W × W :=
  match s.backend.writeAll next w with
  | (.error e, w) => (.error e, s, w)
  | (.ok (), w) => (.ok (), { s with profiles := next }, w)

/-- A profile saved, in place of the one for its server if there is one. -/
def save (s : ProfileStore W) (profile : Profile) (w : W) :
    Except StoreError Unit × ProfileStore W × W :=
  -- a full store still takes a new version of a profile that it has
  if (s.get? profile.serverAddr).isNone && maxProfiles ≤ s.profiles.length then
    (.error (.tooManyProfiles (s.profiles.length + 1) maxProfiles), s, w)
  else s.commit (upsert profile s.profiles) w

/-- The profile for a server deleted and given back, if there is one. -/
def delete (s : ProfileStore W) (server : String) (w : W) :
    Except StoreError (Option Profile) × ProfileStore W × W :=
  match s.get? server with
  | none => (.ok none, s, w)
  | some removed =>
    match s.commit (removeServer server s.profiles) w with
    | (.error e, s, w) => (.error e, s, w)
    | (.ok (), s, w) => (.ok (some removed), s, w)

/-- The store as it is shown for inspection. -/
def inspect (s : ProfileStore W) : String :=
  "ProfileStore \x7b location: " ++ Text.quoted s.backend.location ++
    ", profiles: " ++ toString s.profiles.length ++ " \x7d"

end ProfileStore

end ProxyControl
