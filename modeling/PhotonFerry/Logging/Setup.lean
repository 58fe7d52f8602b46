import PhotonFerry.Config.Settings
import PhotonFerry.Disk.Folders
import PhotonFerry.Logging.Filter
import PhotonFerry.Logging.Retention
/-!
# Setting up logging

First the filter is read. Where logs are filed, the folder is made, expired files in it are
removed and the file of the day is opened. Then logging is installed, which a process can do
only once; a second attempt fails after all that.
-/

namespace PhotonFerry

/-- Why logging cannot be set up. -/
inductive LoggingError where
  | filter (reason : DirectiveError)
  | disk (reason : DiskError)
  /-- The retention leads out of the calendar. -/
  | outOfCalendar
  /-- The file of the day cannot be opened. -/
  | noFile
  | installed
  deriving DecidableEq, Repr

namespace LoggingError

/-- The report of an error. -/
def message : LoggingError → String
  | filter reason => reason.message
  | disk reason => reason.message
  | outOfCalendar => "`DateTime - TimeDelta` overflowed"
  | noFile => "initializing rolling file appender failed"
  | installed =>
    "Failed to set default subscriber: a global default trace dispatcher has already been set"

/-- Whether an error is a fault of the program, which is not reported but ends it. -/
def isFault : LoggingError → Bool
  | filter _ => true
  | outOfCalendar => true
  | noFile => true
  | disk _ => false
  | installed => false

end LoggingError

namespace Logging

/-- The name of the log file of the day of an instant. -/
def fileName (now : Int) : String :=
  s!"{Retention.stem}.{Calendar.dateText now}"

/-- Open the file of the day in the folder under a path. -/
def openFile (path : String) (now : Int) : Action Disk (Except LoggingError Unit) := fun disk =>
  match disk.follow (Disk.joined path (fileName now)) with
  | .error _ => ⟨.error .noFile, disk, []⟩
  | .ok spot =>
    match spot.node with
    | some (.folder _) => ⟨.error .noFile, disk, []⟩
    | some (.file ..) => ⟨.ok (), disk, []⟩
    | none => ⟨.ok (), disk.put spot.place (.file (.text "") now), []⟩

/-- Remove the log files from before a cutoff, which must exist, from the folder under a
path. -/
def removeBefore (path : String) : Option Int → Action Disk (Except LoggingError Unit)
  | none => return .error .outOfCalendar
  | some cutoff => do
    match (← Action.get).folderAt path with
    | .error reason => return .error (.disk reason)
    | .ok folder =>
      Action.modify (Retention.clean folder cutoff)
      return .ok ()

/-- Remove the expired log files from the folder under a path. -/
def removeExpired (path : String) (retentionDays : Nat) (now : Int) :
    Action Disk (Except LoggingError Unit) :=
  removeBefore path (Retention.cutoff? now retentionDays)

/-- Prepare a folder for log files. -/
def prepareFolder (path : String) (retentionDays : Nat) (now : Int) :
    Action Disk (Except LoggingError Unit) := do
  match ← Disk.makeFolders path with
  | .error reason => return .error (.disk reason)
  | .ok () =>
    match ← removeExpired path retentionDays now with
    | .error reason => return .error reason
    | .ok () => openFile path now

/-- What comes of setting up logging. -/
structure SetUp where
  /-- What there is to say of the text of the filter. -/
  remarks : List String := []
  /-- The filter of the records to come. -/
  result : Except LoggingError LogFilter

/-- Set up logging in a process that may have done so before; the environment may
have a filter. -/
def setUp (settings : LoggingSettings) (verbose : Bool) (environment : Option String)
    (now : Int) (installed : Bool) : Action Disk SetUp := do
  match LogFilter.choose environment verbose settings.level with
  | .error reason => return { result := .error (.filter reason) }
  | .ok (filter, remarks) =>
    let prepared ←
      match settings.directory with
      | none => pure (.ok ())
      | some path => prepareFolder path settings.retentionDays now
    match prepared with
    | .error reason => return { remarks, result := .error reason }
    | .ok () =>
      return { remarks, result := if installed then .error .installed else .ok filter }

end Logging

end PhotonFerry
