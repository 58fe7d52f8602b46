import PhotonFerry.CommandLine.Grammar
/-!
# What a user can ask for

The program knows three commands, help on them, and its version.
-/

namespace PhotonFerry.CommandLine

/-- A command of the program. -/
inductive Command where
  /-- Shake hands with a live backend and summarise its detector. -/
  | probe (endpoint : Option String) (broker : Bool)
  /-- Play a recording against a detector catalog. -/
  | replay (table : Option String) (catalog : String) (maxEvents : Option UInt32)
  /-- Count what a recording holds. -/
  | inspect (table : Option String)
  deriving DecidableEq, Repr

/-- A command and the settings that all commands share. -/
structure Invocation where
  configFile : Option String := none
  verbose : Bool := false
  logDirectory : Option String := none
  command : Command
  deriving DecidableEq, Repr

/-- What a command line asks for. -/
inductive Request where
  | run (invocation : Invocation)
  | help (page : CommandSpec)
  | version
  | refused (reason : UsageError)
  deriving DecidableEq, Repr

namespace Request

/-- The name of the program. -/
def programName : String := "photon-offload"

/-- The version of the program. -/
def programVersion : String := "0.1.0"

/-- The option that asks for help. -/
def helpOption : OptionSpec := ⟨"help", some 'h', .help, "Print help"⟩

/-- The specification of `probe`. -/
def probeSpec : CommandSpec where
  call := programName ++ " probe"
  about := "Handshake with a live backend and print its PMT geometry summary"
  usage := "[OPTIONS]"
  options := [
    ⟨"endpoint", some 'e', .value .text "ENDPOINT", "Backend endpoint (overrides config)"⟩,
    ⟨"broker", none, .switch, "Resolve the endpoint as a broker name"⟩,
    helpOption]

/-- The specification of `replay`. -/
def replaySpec : CommandSpec where
  call := programName ++ " replay"
  about := "Replay recorded photoelectrons against a detector catalog"
  usage := "[OPTIONS] --catalog <CATALOG>"
  options := [
    ⟨"table", some 't', .value .path "TABLE", "Replay file (overrides config)"⟩,
    ⟨"catalog", some 'c', .value .path "CATALOG", "Detector PMT catalog (JSON)"⟩,
    ⟨"max-events", none, .value .count "MAX_EVENTS", "Stop after this many events"⟩,
    helpOption]

/-- The specification of `inspect`. -/
def inspectSpec : CommandSpec where
  call := programName ++ " inspect"
  about := "Print event and PMT counts of a replay file"
  usage := "[TABLE]"
  options := [helpOption]
  operand := some ⟨"[TABLE]", .path, "Replay file (overrides config)"⟩

/-- The specification of `help`. -/
def helpSpec : CommandSpec where
  call := programName ++ " help"
  about := "Print this message or the help of the given subcommand(s)"
  usage := "[COMMAND]..."
  operand := some ⟨"[COMMAND]...", .text, "Print help for the subcommand(s)"⟩

/-- The commands of the program by name. -/
def commandSpecs : List (String × CommandSpec) :=
  [("probe", probeSpec), ("replay", replaySpec), ("inspect", inspectSpec), ("help", helpSpec)]

/-- The specification of the program itself. -/
def programSpec : CommandSpec where
  call := programName
  about := "Offload client sending optical photons to a photon-transport backend and turning "
    ++ "photoelectrons into PMT hits"
  usage := "[OPTIONS] <COMMAND>"
  options := [
    ⟨"config", some 'f', .value .path "CONFIG", "Configuration file path"⟩,
    ⟨"verbose", some 'v', .switch, "Enable verbose logging"⟩,
    ⟨"log-dir", none, .value .path "LOG_DIR",
      "Directory where log files are stored (overrides config)"⟩,
    helpOption,
    ⟨"version", some 'V', .version, "Print version"⟩]
  commands := commandSpecs.map fun (name, spec) => (name, spec.about)

/-- The help that is asked for by the names of commands. -/
def ofHelpNames : List String → Request
  | [] => .help programSpec
  | [name] =>
    match commandSpecs.lookup name with
    | some page => .help page
    | none => .refused (.unexpected name)
  | name :: next :: _ =>
    .refused (.unexpected (if (commandSpecs.lookup name).isSome then next else name))

/-- The request that comes of an interrupted reading. -/
def ofInterruption (page : CommandSpec) : Interruption → Request
  | .help => .help page
  | .version => .version
  | .refused reason => .refused reason

/-- The command with a name, of what its words give. -/
def command (name : String) (given : Given) : Except UsageError Command :=
  if name = "probe" then .ok (.probe (given.value? "endpoint") (given.has "broker"))
  else if name = "replay" then
    match given.value? "catalog" with
    | none => .error (.missingOption "catalog")
    | some catalog =>
      .ok (.replay (given.value? "table") catalog ((given.value? "max-events").bind readCount?))
  else .ok (.inspect given.operand)

/-- What the words behind the name of a command ask for, after the words of the
program itself. -/
def ofCommandWords (general : Reading) (name : String) (spec : CommandSpec)
    (words : List String) : Request :=
  match spec.scan {} words with
  | .error reason => ofInterruption spec reason
  | .ok (reading, _) =>
    match reading.settle.bind (command name), general.settle with
    | .error reason, _ => .refused reason
    | _, .error reason => .refused reason
    | .ok command, .ok general =>
      .run {
        configFile := general.value? "config"
        verbose := general.has "verbose"
        logDirectory := general.value? "log-dir"
        command }

/-- What the words of a command line ask for. -/
def ofWords (words : List String) : Request :=
  match programSpec.scan {} words with
  | .error reason => ofInterruption programSpec reason
  | .ok (general, []) =>
    match general.settle with
    | .error reason => .refused reason
    | .ok _ => .refused .missingCommand
  | .ok (general, name :: rest) =>
    if name = "help" then ofHelpNames rest
    else
      match commandSpecs.lookup name with
      | none => .refused (.unexpected name)
      | some spec => ofCommandWords general name spec rest

end Request

end PhotonFerry.CommandLine
