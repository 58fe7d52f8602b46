import PhotonFerry.Config.Text
import PhotonFerry.Disk.Basic
/-!
# Finding the configuration

The configuration comes from the file that the user names, or else from a file
with a fixed name in the working folder, or else from the defaults. In any case
the environment overrides it.
-/

namespace PhotonFerry

/-- Why there is no configuration. -/
inductive ConfigError where
  /-- The file cannot be read. -/
  | unreadable (path : String) (reason : DiskError)
  /-- The file's text is not of its form. -/
  | malformed
  deriving DecidableEq, Repr

/-- The report of an error. -/
def ConfigError.message : ConfigError → String
  | unreadable path reason => s!"Configuration error: Failed to read {path}: {reason.message}"
  | malformed => "Configuration error: TOML parse error"

namespace Config

/-- The file that is looked for when the user names none. -/
def defaultFile : String := "photon-offload.toml"

/-- The configuration in the text of a file. -/
def ofText (text : String) : Except ConfigError Config :=
  match ofText? text with
  | some config => .ok config
  | none => .error .malformed

/-- The configuration in a file. -/
def load {σ : Type} (disk : Disk) (path : String) : Action σ (Except ConfigError Config) :=
  match disk.readText path with
  | .error reason => return .error (.unreadable path reason)
  | .ok text =>
    match ofText text with
    | .error reason => return .error reason
    | .ok config => do
      Action.info .configuration s!"Loaded config from {path}"
      return .ok config

/-- The file to be loaded, if there is one. -/
def chosenFile? (disk : Disk) (path : Option String) : Option String :=
  match path with
  | some path => some path
  | none => if disk.has defaultFile then some defaultFile else none

/-- The configuration for a path that the user may have given. -/
def resolve {σ : Type} (disk : Disk) (environment : List (String × String))
    (path : Option String) : Action σ (Except ConfigError Config) := do
  let found ←
    match chosenFile? disk path with
    | some path => load disk path
    | none => pure (.ok {})
  match found with
  | .error reason => return .error reason
  | .ok config => return .ok (← config.applyOverrides (environmentLookup environment))

end Config

end PhotonFerry
