import ProxyControl.Files.Path
import ProxyControl.Settings

/-!
# Where the files are

All files are kept under one directory, or under the usual directories for configuration and data
below a home directory.

## Main definitions

* `ConfigPaths`: the two directories
* `ConfigPaths.inDir`, `ConfigPaths.ofHome`: the ways to choose them
* `ConfigPaths.store`, `ConfigPaths.flatFile`, `ConfigPaths.defaultRouteList`: the files
* `Settings.routeListPath`: the route list that the settings choose
-/

set_option autoImplicit false

namespace ProxyControl

/-- The directories of the files. -/
structure ConfigPaths where
  /-- The directory of the configuration. -/
  configDir : String
  /-- The directory of all else. -/
  dataDir : String
  deriving DecidableEq, Repr

namespace ConfigPaths

/-- All files under one directory. -/
def inDir (dir : String) : ConfigPaths := ⟨dir, dir⟩

/-- The usual directories below a home directory. -/
def ofHome (home : String) : ConfigPaths :=
  ⟨joinPath home ".config/flightdeck", joinPath home ".local/share/flightdeck"⟩

/-- The file of the settings and the profiles. -/
def store (p : ConfigPaths) : String := joinPath p.configDir "flightdeck.toml"

/-- The flat file of profiles. -/
def flatFile (p : ConfigPaths) : String := joinPath p.configDir "server.txt"

/-- The usual route list. -/
def defaultRouteList (p : ConfigPaths) : String := joinPath p.configDir "chinalist.txt"

end ConfigPaths

/-- The route list that the settings choose. -/
def Settings.routeListPath (s : Settings) (p : ConfigPaths) : String :=
  s.routeList.getD p.defaultRouteList

end ProxyControl
