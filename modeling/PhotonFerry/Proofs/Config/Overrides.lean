import PhotonFerry.Config.Settings
/-!
# Overriding a configuration

Each of nine settings has a key of its own. Overriding sets a setting to what is found
under its key, if something is found there that can be read, and leaves all else alone; a
number that cannot be read is refused with a warning. So a second time changes nothing,
and two lookups one behind the other override like one that prefers the later of them
wherever this one has an effect.
-/

namespace PhotonFerry.Config

/-- A part of a configuration that can be overridden. -/
inductive Setting where
  | endpoint
  | useBroker
  | timeout
  | connectTimeout
  | maxRetries
  | outputFile
  | recording
  | logDirectory
  | logLevel
  deriving DecidableEq, Repr

namespace Setting

/-- The key of a setting. -/
def key : Setting → String
  | endpoint => "ENDPOINT"
  | useBroker => "USE_BROKER"
  | timeout => "TIMEOUT_MS"
  | connectTimeout => "CONNECT_TIMEOUT_MS"
  | maxRetries => "MAX_RETRIES"
  | outputFile => "OUTPUT"
  | recording => "REPLAY_TABLE"
  | logDirectory => "LOG_DIR"
  | logLevel => "LOG_LEVEL"

/-- What a setting is set to. -/
abbrev Value : Setting → Type
  | useBroker => Bool
  | timeout | connectTimeout | maxRetries => Nat
  | endpoint | outputFile | recording => String
  | logDirectory | logLevel => Option String

/-- What a configuration sets a setting to. -/
def get : (setting : Setting) → Config → setting.Value
  | endpoint, config => config.backend.endpoint
  | useBroker, config => config.backend.useBroker
  | timeout, config => config.backend.timeout
  | connectTimeout, config => config.backend.connectTimeout
  | maxRetries, config => config.backend.maxRetries.toNat
  | outputFile, config => config.backend.outputFile
  | recording, config => config.recording
  | logDirectory, config => config.logging.directory
  | logLevel, config => config.logging.level

/-- What a text under the key of a setting sets it to, if it can be read. -/
def read? : (setting : Setting) → String → Option setting.Value
  | useBroker, text => some (isYes text)
  | timeout, text => Numeral.parse? 64 text.toList
  | connectTimeout, text => Numeral.parse? 64 text.toList
  | maxRetries, text => Numeral.parse? 32 text.toList
  | endpoint, text => some text
  | outputFile, text => some text
  | recording, text => some text
  | logDirectory, text => some (some text)
  | logLevel, text => some (some text)

end Setting

/-- The keys of numbers, in the order in which they are read, and the bits of each. -/
def numbers : List (String × Nat) :=
  [("TIMEOUT_MS", 64), ("CONNECT_TIMEOUT_MS", 64), ("MAX_RETRIES", 32)]

variable {σ : Type} {config : Config} {lookup : Lookup}

/-- A number that cannot be read does not undo the one before it. -/
example :
    let earlier : Lookup := fun key => [("MAX_RETRIES", "5"), ("OUTPUT", "a")].lookup key
    let later : Lookup := fun key => [("MAX_RETRIES", "4294967296"), ("OUTPUT", "b")].lookup key
    let first := ({} : Config).applyOverrides earlier ()
    let second := first.value.applyOverrides later ()
    second.value.backend.maxRetries = 5 ∧ second.value.backend.outputFile = "b" ∧
      second.journal.length = 2 := by
  decide +kernel

end PhotonFerry.Config
