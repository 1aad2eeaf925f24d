import ProxyControl.Command.Help
import ProxyControl.Command.Profiles
import ProxyControl.Command.Settings
import ProxyControl.Relay.Listen

/-!
# Tasks done

Every task ends with an exit code and with what it printed. A command line that asks for nothing
that can be done ends in the same way.

## Main definitions

* `Task.perform`: a task done
* `Refusal.outcome`: the end of a command line that is not carried out
-/

set_option autoImplicit false

namespace ProxyControl

/-- The name of the program with its version. -/
def versionLine : String := "flightdeck 1.0.0"

/-- What is said about a command line that cannot be carried out. -/
def misuseLines : List String :=
  ["error: the command line cannot be carried out", "", usageLine [], "",
    "For more information, try '--help'."]

/-- The end of a command line that is not carried out. -/
def Refusal.outcome : Refusal → Outcome
  | .misuse => ⟨2, .errors misuseLines⟩
  | .help path isLong => .success (.lines (helpPage path isLong))
  | .version => .success (.line versionLine)

/-- A task done on a machine with a network. -/
def Task.perform (n : Network) (w : Workplace) (d : Disk) : Task → Outcome × Disk
  | .listProfiles asExport => ProxyControl.listProfiles asExport w d
  | .deleteProfile server => ProxyControl.deleteProfile server w d
  | .importProfiles file fullEscaping => ProxyControl.importProfiles file fullEscaping w d
  | .showSettings => ProxyControl.showSettings w d
  | .changeSettings change => ProxyControl.changeSettings change w d
  | .relay listen =>
    (match openRelay n listen with
      | .ok () => .success .silent
      | .error e => .failure .silent (.relay e), d)

end ProxyControl
