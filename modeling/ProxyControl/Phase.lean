/-!
# Session phases

A session goes from stopped over starting to running, perhaps over stopping, and back to stopped;
one whose engine never becomes ready goes from starting back to stopped.

## Main definitions

* `Phase`: the four phases
* `Phase.name`, `Phase.read?`: the name
-/

set_option autoImplicit false

namespace ProxyControl

/-- How far the session is. -/
inductive Phase where
  /-- There is no session. -/
  | stopped
  /-- The engine was called and is not ready yet. -/
  | starting
  /-- The engine is serving. -/
  | running
  /-- The engine was asked to stop. -/
  | stopping
  deriving DecidableEq, Repr

namespace Phase

/-- The name of a phase. -/
def name : Phase → String
  | stopped => "stopped"
  | starting => "starting"
  | running => "running"
  | stopping => "stopping"

/-- The name of a phase in a structure that is shown for inspection. -/
def inspect : Phase → String
  | stopped => "Stopped"
  | starting => "Starting"
  | running => "Running"
  | stopping => "Stopping"

/-- The phase with the given name. -/
def read? (s : String) : Option Phase :=
  [stopped, starting, running, stopping].find? fun p => p.name == s

end Phase

end ProxyControl
