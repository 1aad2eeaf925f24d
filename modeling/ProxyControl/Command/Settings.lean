import ProxyControl.Command.Console
import ProxyControl.Command.Invocation
import ProxyControl.Command.Workplace

/-!
# Commands on the settings

The settings are shown as the program would use them, with a warning for each value that cannot be
used. A change is checked as a whole before it is saved, and what is saved is read again and shown.

## Main definitions

* `settingsLines`: the settings as they are shown
* `showSettings`, `changeSettings`: the commands
-/

set_option autoImplicit false

namespace ProxyControl

/-- The settings as they are shown. -/
def settingsLines (w : Workplace) (s : Settings) : List String :=
  let row (name value : String) : String := padRight 12 name ++ " " ++ value
  [row "store" w.paths.store, row "log level" s.logLevel.name, row "proxy mode" s.mode.name,
    row "lang" s.lang, row "dns cache" (toString s.dnsCacheSize.toNat),
    row "autostart" (toString s.autostart), row "mitm" (toString s.mitm),
    row "auto min" (toString s.autoMinimize), row "log capacity" (toString s.logCapacity),
    row "route list" (s.routeListPath w.paths)]

/-- The settings shown, with the warnings about them. -/
def showSettings (w : Workplace) (d : Disk) : Outcome × Disk :=
  let ((settings, warnings), d) := loadSettings w.storeFile d
  (.success ((Console.warnings warnings).andThen (.lines (settingsLines w settings))), d)

/-- Settings changed. -/
def changeSettings (change : SettingsChange) (w : Workplace) (d : Disk) : Outcome × Disk :=
  let ((settings, _), d) := loadSettings w.storeFile d
  let next := change.apply settings
  match next.check with
  | .error e => (.failure .silent (.setting e), d)
  | .ok () =>
    match saveSettings w.storeFile next d with
    | (.error e, d) => (.failure .silent (.store e), d)
    | (.ok (), d) => showSettings w d

end ProxyControl
