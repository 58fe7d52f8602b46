import PhotonFerry.Backend.Opening
import PhotonFerry.CommandLine.Report
import PhotonFerry.Detector.CatalogText
import PhotonFerry.Disk.Recordings
import PhotonFerry.Number.Word
import PhotonFerry.Run.Controller
/-!
# The commands

Each command is an action that ends in a report or an error. `replay` drives a
whole run: it opens the recording once to learn the number of its events, and
once more as the backend of the run. A run that fails is ended before its error
is reported.
-/

namespace PhotonFerry.CommandLine

open Json (Value)

/-- Why a command fails. -/
inductive CommandError where
  | recording (reason : RecordingError)
  | run (reason : RunError)
  deriving DecidableEq, Repr

/-- The report of an error. -/
def CommandError.message : CommandError → String
  | recording reason => reason.message
  | run reason => reason.message

/-- Count what a recording holds. -/
def inspect (disk : Disk) (path : String) : Action Unit (Except CommandError Value) := do
  match ← RecordingTable.openFile path (disk.recordingAt path) with
  | .error reason => return .error (.recording reason)
  | .ok table =>
    match table.eventCount, table.positionCount with
    | .error reason, _ => return .error (.recording reason)
    | _, .error reason => return .error (.recording reason)
    | .ok events, .ok positions => return .ok (inspectReport path events positions)

/-- Shake hands with a live backend and summarise its detector. -/
def probe (settings : ClientSettings) : Action Unit (Except CommandError Value) := do
  openContext
  match ← LiveBackend.openFor settings with
  | .error reason => return .error (.run reason)
  | .ok backend =>
    let info := backend.session.detector.getD {}
    let stopped := LiveBackend.run Client.stop backend
    Action.report stopped.journal
    return .ok (probeReport settings.endpoint info stopped.state.session.reconnects)

/-- The number of events in a recording. -/
def recordedEvents (path : String) (file : Recording.StoredFile) :
    Action Unit (Except RecordingError Nat) := do
  match ← RecordingTable.openFile path file with
  | .error reason => return .error reason
  | .ok table => return table.eventCount

/-- The catalog in a file. -/
def loadCatalog (disk : Disk) (path : String) : Except CatalogError Catalog :=
  match disk.readText path with
  | .error reason => .error (.notRead path reason)
  | .ok text => Catalog.ofText text

/-- A controller that replays recordings. -/
abbrev ReplayController := Controller RecordingReader IdealResponse

/-- Process some events in their order, up to the first that fails. -/
def processEvents : List UInt32 → Action ReplayController (Except RunError (List Hit))
  | [] => return .ok []
  | event :: rest => do
    let processed ← Controller.processEvent event
    match processed.result with
    | .error reason => return .error reason
    | .ok _ =>
      match ← processEvents rest with
      | .error reason => return .error reason
      | .ok later => return .ok (processed.hits ++ later)

/-- Run the events of a recording from the first to the last, and end the run. -/
def replayRun (path : String) (file : Recording.StoredFile) (events : List UInt32) :
    Action ReplayController (Except RunError Value) := do
  match ← Controller.beginRunBy (RecordingReader.openBackend path file) with
  | .error reason => return .error reason
  | .ok () =>
    let processed ← processEvents events
    let metrics ← Controller.endRun
    match processed with
    | .error reason => return .error reason
    | .ok hits => return .ok (replayReport (metrics.getD {}) (HitTally.ofHits hits))

/-- The events that a replay processes. -/
def replayedEvents (recorded : Nat) (maxEvents : Option UInt32) : List UInt32 :=
  let count := (maxEvents.map fun most => min recorded most.toNat).getD recorded
  (List.range (count % twoTo 32)).map UInt32.ofNat

/-- Play a recording against a detector catalog. -/
def replay (disk : Disk) (path catalogPath : String) (maxEvents : Option UInt32) :
    Action Unit (Except CommandError Value) := do
  let file := disk.recordingAt path
  match ← recordedEvents path file with
  | .error reason => return .error (.recording reason)
  | .ok recorded =>
    match loadCatalog disk catalogPath with
    | .error reason => return .error (.run (.catalog reason))
    | .ok catalog =>
      Action.info .program s!"Loaded {catalog.size} PMTs from {catalogPath}"
      openContext
      let run := replayRun path file (replayedEvents recorded maxEvents)
        { catalog, response := {} }
      Action.report run.journal
      match run.value with
      | .error reason => return .error (.run reason)
      | .ok report => return .ok report

end PhotonFerry.CommandLine
