import PhotonFerry.Client.Settings
/-!
# The configuration of a run

A configuration has a section for the backend, one for the recording that stands
in for it, and one for logging. A file may set any part of it, and the
environment overrides the file.
-/

namespace PhotonFerry

/-- Where a run is logged. -/
structure LoggingSettings where
  /-- The directory for daily log files; without one nothing is filed. -/
  directory : Option String := none
  /-- For how many days log files are kept. -/
  retentionDays : Nat := 7
  level : Option String := none
  deriving DecidableEq, Repr

/-- The configuration of a run. -/
structure Config where
  backend : ClientSettings := {}
  /-- The recording that stands in for the backend. -/
  recording : String := "photons.sqlite"
  logging : LoggingSettings := {}
  deriving DecidableEq, Repr

namespace Config

/-- What a key begins with in the environment. -/
def keyPrefix : String := "PHOTON_OFFLOAD_"

/-- The keys that can be overridden. -/
def keys : List String :=
  ["ENDPOINT", "USE_BROKER", "TIMEOUT_MS", "CONNECT_TIMEOUT_MS", "MAX_RETRIES", "OUTPUT",
    "REPLAY_TABLE", "LOG_DIR", "LOG_LEVEL"]

/-- Whether a text says yes. Only ASCII letters occur in the texts that do, so
that the case of other letters does not matter. -/
def isYes (text : String) : Bool :=
  ["1", "true", "yes", "on"].contains text.toLower

/-- Where to find an override by its key. -/
abbrev Lookup := String → Option String

/-- Read the number under a key, if there is one of the given number of bits. -/
def readNumber {σ : Type} (lookup : Lookup) (bits : Nat) (key : String) :
    Action σ (Option Nat) :=
  match lookup key with
  | none => return none
  | some text =>
    match Numeral.parse? bits text.toList with
    | some value => return some value
    | none => do
      Action.warn .configuration s!"Ignoring {keyPrefix}{key}={text}: not a number"
      return none

/-- Override what a lookup has something for. -/
def applyOverrides {σ : Type} (config : Config) (lookup : Lookup) : Action σ Config := do
  let timeout ← readNumber lookup 64 "TIMEOUT_MS"
  let connectTimeout ← readNumber lookup 64 "CONNECT_TIMEOUT_MS"
  let maxRetries ← readNumber lookup 32 "MAX_RETRIES"
  let backend : ClientSettings := {
    endpoint := (lookup "ENDPOINT").getD config.backend.endpoint
    useBroker := ((lookup "USE_BROKER").map isYes).getD config.backend.useBroker
    timeout := timeout.getD config.backend.timeout
    connectTimeout := connectTimeout.getD config.backend.connectTimeout
    maxRetries := (maxRetries.map UInt32.ofNat).getD config.backend.maxRetries
    outputFile := (lookup "OUTPUT").getD config.backend.outputFile }
  Action.debug .configuration <|
    s!"Backend config: endpoint={backend.endpoint}, broker={backend.useBroker}, "
      ++ s!"timeout={backend.timeout}ms, retries={backend.maxRetries.toNat}"
  return {
    backend := backend
    recording := (lookup "REPLAY_TABLE").getD config.recording
    logging := { config.logging with
      directory := (lookup "LOG_DIR").or config.logging.directory
      level := (lookup "LOG_LEVEL").or config.logging.level } }

/-- Where to find an override in an environment. -/
def environmentLookup (environment : List (String × String)) : Lookup :=
  fun key => environment.lookup (keyPrefix ++ key)

end Config

end PhotonFerry
