import ProxyControl.IoError
import ProxyControl.Phase

/-!
# Errors

Errors are causes: each says what went wrong and keeps what caused it. Their words are in one
function per kind, and the chain of an error lists them from the outermost cause to the innermost.
A failure of the engine is no error; it is a condition of the session's status.

## Main definitions

* `ProfileError`, `StoreError`, `SessionError`, `SettingError`, `RelayError`: the kinds
* `Error`: any of them
* `Error.message`: the words of an error
* `Error.chain`: the words of an error and of all that caused it
-/

set_option autoImplicit false

namespace ProxyControl

/-- What is wrong with a profile. -/
inductive ProfileError where
  /-- A field that must be given is blank. -/
  | missingField (field : String)
  | invalidField (field value reason : String)
  /-- No profile is saved for the server. -/
  | notFound (server : String)
  deriving DecidableEq, Repr

/-- What went wrong with a file of profiles or settings. -/
inductive StoreError where
  | io (path operation : String) (source : IoError)
  /-- The text of the file is no document. -/
  | parse (path detail : String)
  /-- A value has no written form. -/
  | serialize (path detail : String)
  /-- There would be more profiles than a store may hold. -/
  | tooManyProfiles (count largest : Nat)
  deriving DecidableEq, Repr

/-- Why a session request was refused. -/
inductive SessionError where
  | invalidProfile (source : ProfileError)
  /-- The request has no meaning in this phase. -/
  | invalidTransition (operation : String) (phase : Phase)
  /-- The engine's thread could not be created. -/
  | spawn (source : IoError)
  deriving DecidableEq, Repr

/-- What is wrong with a setting. -/
inductive SettingError where
  /-- A setting has a value that it must not have. -/
  | valueOutOfRange (field value expected : String)
  /-- No engine was named. -/
  | missingEngine
  deriving DecidableEq, Repr

/-- Why a relay request was refused. -/
inductive RelayError where
  /-- The request names no target. -/
  | missingTarget
  /-- The target has the wrong number of fields. -/
  | malformedTarget (raw : String)
  /-- The target's port is no port. -/
  | invalidPort (raw : String)
  /-- The relay cannot listen. -/
  | listen (addr : String) (source : IoError)
  deriving DecidableEq, Repr

/-- Any error of the program. -/
inductive Error where
  | profile (source : ProfileError)
  | store (source : StoreError)
  | session (source : SessionError)
  | setting (source : SettingError)
  | relay (source : RelayError)
  /-- An error of input or output outside the stores. -/
  | io (path operation : String) (source : IoError)
  deriving DecidableEq, Repr

/-- The words of a profile error. -/
def ProfileError.message : ProfileError → String
  | .missingField field => "required field '" ++ field ++ "' is empty"
  | .invalidField field value reason =>
    "field '" ++ field ++ "' = '" ++ value ++ "' is invalid: " ++ reason
  | .notFound server => "no profile stored for '" ++ server ++ "'"

/-- The words of a store error. -/
def StoreError.message : StoreError → String
  | .io path operation source =>
    "cannot " ++ operation ++ " store '" ++ path ++ "': " ++ source.message
  | .parse path detail => "failed to parse store '" ++ path ++ "': " ++ detail
  | .serialize path detail => "failed to serialise store '" ++ path ++ "': " ++ detail
  | .tooManyProfiles count largest =>
    toString count ++ " profiles exceeds the maximum of " ++ toString largest

/-- The words of a session error. -/
def SessionError.message : SessionError → String
  | .invalidProfile source => "profile rejected: " ++ source.message
  | .invalidTransition operation phase => "cannot " ++ operation ++ " while " ++ phase.name
  | .spawn source => "cannot spawn engine thread: " ++ source.message

/-- The words of a setting error. -/
def SettingError.message : SettingError → String
  | .valueOutOfRange field value expected =>
    "Setting '" ++ field ++ "' = '" ++ value ++ "' is out of range. Expected: " ++ expected
  | .missingEngine => "No engine executable given. Pass --engine <PATH> or --dry-run"

/-- The words of a relay error. -/
def RelayError.message : RelayError → String
  | .missingTarget => "missing relay target header"
  | .malformedTarget raw => "relay target '" ++ raw ++ "' is not 'host,port[,dns]'"
  | .invalidPort raw => "relay port '" ++ raw ++ "' is not a valid port"
  | .listen addr source => "cannot listen on '" ++ addr ++ "': " ++ source.message

/-- The words of an error. -/
def Error.message : Error → String
  | .profile source => "Profile error: " ++ source.message
  | .store source => "Store error: " ++ source.message
  | .session source => "Session error: " ++ source.message
  | .setting source => "Configuration error: " ++ source.message
  | .relay source => "Relay error: " ++ source.message
  | .io path operation source =>
    "I/O error during " ++ operation ++ " on '" ++ path ++ "': " ++ source.message

/-- The words of a store error and of its causes. -/
def StoreError.chain (e : StoreError) : List String :=
  e.message :: match e with
    | .io _ _ source => [source.message]
    | .parse _ detail => [detail]
    | .serialize _ detail => [detail]
    | .tooManyProfiles _ _ => []

/-- The words of a session error and of its causes. -/
def SessionError.chain (e : SessionError) : List String :=
  e.message :: match e with
    | .invalidProfile source => [source.message]
    | .invalidTransition _ _ => []
    | .spawn source => [source.message]

/-- The words of a relay error and of its causes. -/
def RelayError.chain (e : RelayError) : List String :=
  e.message :: match e with
    | .listen _ source => [source.message]
    | _ => []

/-- The words of an error and of all that caused it, the outermost first. -/
def Error.chain (e : Error) : List String :=
  e.message :: match e with
    | .profile source => [source.message]
    | .store source => source.chain
    | .session source => source.chain
    | .setting source => [source.message]
    | .relay source => source.chain
    | .io _ _ source => [source.message]

end ProxyControl
