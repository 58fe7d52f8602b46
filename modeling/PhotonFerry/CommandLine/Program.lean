import PhotonFerry.CommandLine.Commands
import PhotonFerry.CommandLine.Help
import PhotonFerry.CommandLine.Invocation
import PhotonFerry.Config.Resolve
import PhotonFerry.Logging.Line
import PhotonFerry.Logging.Setup
/-!
# The program

`run` is the whole program as a function: from the words of a command line and
the surroundings to what it prints, its status, and the disk that it leaves. The
configuration is found first, then logging is set up, and only then the command
is carried out; records made before that are lost.
-/

namespace PhotonFerry.CommandLine

/-- What a program finds around it. -/
structure Surroundings where
  environment : List (String × String) := []
  disk : Disk := {}
  /-- The present instant, in seconds since the beginning of 1970. -/
  now : Int

/-- What a program leaves when it ends. -/
structure Ending where
  status : Nat
  /-- What is printed as the result. -/
  output : String := ""
  /-- Lines for the user that are not records, or not the first of one. -/
  remarks : List String := []
  /-- The records that are shown, as far as their first lines go. -/
  records : Journal := []
  deriving DecidableEq, Repr

namespace Program

/-- The status of success. -/
def success : Nat := 0

/-- The status of a failure that is reported. -/
def failed : Nat := 1

/-- The status of a command line that cannot be understood. -/
def misused : Nat := 2

/-- The status of a fault of the program. -/
def faulty : Nat := 101

/-- The variable with the filter of a run. -/
def filterVariable : String := "RUST_LOG"

/-- Carry out a command under a configuration. -/
def perform (disk : Disk) (config : Config) :
    Command → Action Unit (Except CommandError Json.Value)
  | .probe endpoint broker =>
    let backend := config.backend
    probe { backend with
      endpoint := endpoint.getD backend.endpoint
      useBroker := backend.useBroker || broker }
  | .replay table catalog maxEvents => replay disk (table.getD config.recording) catalog maxEvents
  | .inspect table => inspect disk (table.getD config.recording)

/-- The configuration of an invocation. -/
def configure (surroundings : Surroundings) (invocation : Invocation) :
    Except ConfigError Config :=
  let resolved : Traced Unit (Except ConfigError Config) :=
    Config.resolve surroundings.disk surroundings.environment invocation.configFile ()
  resolved.value.map fun config =>
    { config with logging := { config.logging with
        directory := invocation.logDirectory.or config.logging.directory } }

/-- An ending that shows remarks, and those of the records that a filter lets pass. -/
def ending (status : Nat) (output : String) (remarks : List String) (filter : LogFilter)
    (records : Journal) : Ending :=
  let shown := records.filter filter.shows
  { status
    output
    remarks := remarks.flatMap linesOf ++ shown.flatMap LogRecord.furtherLines
    records := shown.map LogRecord.firstLine }

/-- An ending without records. -/
def silentEnding (status : Nat) (remarks : List String) : Ending :=
  { status, remarks := remarks.flatMap linesOf }

/-- Carry out an invocation whose configuration is known, once logging is set up. -/
def conclude (invocation : Invocation) (config : Config) (filter : LogFilter)
    (remarks : List String) (disk : Disk) : Ending :=
  let performed := perform disk config invocation.command ()
  match performed.value with
  | .ok report => ending success (report.text ++ "\n") remarks filter performed.journal
  | .error reason =>
    ending failed "" remarks filter
      (performed.journal ++ [⟨.error, .program, reason.message⟩])

/-- What is left when logging cannot be set up. -/
def withoutLogging (remarks : List String) (reason : LoggingError) : Ending :=
  if reason.isFault then silentEnding faulty (remarks ++ [reason.message])
  else silentEnding failed (remarks ++ [s!"Failed to initialize logging: {reason.message}"])

/-- Carry out an invocation. -/
def invoke (surroundings : Surroundings) (invocation : Invocation) : Ending × Disk :=
  match configure surroundings invocation with
  | .error reason => (silentEnding failed [reason.message], surroundings.disk)
  | .ok config =>
    let setUp := Logging.setUp config.logging invocation.verbose
      (surroundings.environment.lookup filterVariable) surroundings.now false surroundings.disk
    let remarks := setUp.value.remarks
    match setUp.value.result with
    | .error reason => (withoutLogging remarks reason, setUp.state)
    | .ok filter => (conclude invocation config filter remarks setUp.state, setUp.state)

/-- The program: what it leaves, and the disk after it. -/
def run (words : List String) (surroundings : Surroundings) : Ending × Disk :=
  match Request.ofWords words with
  | .run invocation => invoke surroundings invocation
  | .help page => ({ status := success, output := page.helpText }, surroundings.disk)
  | .version =>
    ({ status := success, output := s!"{Request.programName} {Request.programVersion}\n" },
      surroundings.disk)
  | .refused reason => (silentEnding misused [reason.message], surroundings.disk)

end Program

end PhotonFerry.CommandLine
