import PhotonFerry.CommandLine.Needs
import Std.Time.DateTime.Timestamp
/-!
# The program at a terminal

The outer layer loads what the program needs to see, runs it, and puts into
effect what it leaves: the changes of the disk, the printed lines and the status.
Live backends are out of its reach, since it opens no connection.
-/

namespace PhotonFerry.Terminal

open CommandLine

/-- The path of a place. -/
def pathOf (place : Place) : String :=
  "/" ++ String.intercalate "/" place.reverse

/-- The disk around the working folder, without any file. -/
def emptyDisk : IO Disk := do
  let home := (((← IO.currentDir).toString.splitOn "/").filter (· ≠ "")).reverse
  return { home, root := home.foldl (fun node name => .folder [(name, node)]) .emptyFolder }

/-- Add what stands at a place, and if asked for what is in it if it is a file. -/
def loadPlace (disk : Disk) (place : Place) (withContents : Bool) : IO Disk := do
  if (disk.at? place).isSome then return disk
  try
    let found ← ((← IO.currentDir) / pathOf place).metadata
    match found.type with
    | .dir => return disk.put place .emptyFolder
    | _ =>
      let contents ←
        if withContents then
          try pure (FileContents.ofBytes (← IO.FS.readBinFile (pathOf place)))
          catch _ => pure .other
        else pure .other
      return disk.put place (.file contents found.modified.sec)
  catch _ => return disk

/-- Add what a path leads to. -/
def loadPath (disk : Disk) (path : String) : IO Disk := do
  let (absolute, steps) := Disk.names path
  let .ok start := disk.start absolute | return disk
  let mut disk := disk
  let mut spot := start
  for name in steps do
    let .ok next := spot.step name | return disk
    disk ← loadPlace disk next.place true
    spot := { next with node := disk.at? next.place }
  return disk

/-- Add what the name of a recording leads to. -/
def loadRecording (disk : Disk) (name : String) : IO Disk := do
  let .ok location := Recording.Location.ofText name | return disk
  let mut disk := disk
  let mut names := disk.startNames location.path
  for name in location.path.splitOn (Recording.byteOf '/') do
    let some next := disk.addName names name | return disk
    if names.length < next.length then
      disk ← loadPlace disk (next.map Disk.knownName) true
      let journal := (name ++ Disk.journalEnding) :: names
      disk ← loadPlace disk (journal.map Disk.knownName) true
    let some next := disk.addName names name | return disk
    names := next
  match location.model.bind fun model => String.fromUTF8? ⟨model.toArray⟩ with
  | some model => loadPath disk model
  | none => return disk

/-- Add the entries of the folder under a path. -/
def loadEntries (disk : Disk) (path : String) : IO Disk := do
  match disk.locate path with
  | .error _ => return disk
  | .ok place =>
    try
      let mut disk := disk
      for entry in ← ((← IO.currentDir) / pathOf place).readDir do
        disk ← loadPlace disk (entry.fileName :: place) false
      return disk
    catch _ => return disk

/-- The variables of the environment that the program looks at. -/
def loadEnvironment : IO (List (String × String)) := do
  let found ← Needs.variableNames.mapM fun name => do
    return (← IO.getEnv name).map fun value => (name, value)
  return found.filterMap id

/-- What the program finds around it, as far as it needs it. -/
def loadSurroundings (request : Request) : IO Surroundings := do
  let now := (← Std.Time.Timestamp.now).toSecondsSinceUnixEpoch.val
  let environment ← loadEnvironment
  let disk ← emptyDisk
  match request with
  | .run invocation =>
    let disk ← (Needs.configPaths invocation).foldlM loadPath disk
    match Program.configure { environment, disk, now } invocation with
    | .error _ => return { environment, disk, now }
    | .ok config =>
      let disk ← (Needs.laterPaths config invocation).foldlM loadPath disk
      let disk ← config.logging.directory.toList.foldlM loadEntries disk
      let disk ← (Needs.recordings config invocation.command).foldlM loadRecording disk
      return { environment, disk, now }
  | _ => return { environment, disk, now }

/-- Put the changes of a disk into effect. -/
def store (before after : Disk) : IO Unit := do
  for (place, node) in after.nodes do
    if (before.at? place).isNone then
      match node with
      | .folder _ => IO.FS.createDirAll (pathOf place)
      | .file .. => let _ ← IO.FS.Handle.mk (pathOf place) .append
  for (place, _) in before.nodes do
    if (after.at? place).isNone then IO.FS.removeFile (pathOf place)

/-- Add lines to the log file of the day, if logs are filed. -/
def fileLines (surroundings : Surroundings) (request : Request) (lines : List String) :
    IO Unit := do
  let .run invocation := request | return
  let .ok config := Program.configure surroundings invocation | return
  let some directory := config.logging.directory | return
  let .ok folder := surroundings.disk.locate directory | return
  let file ← IO.FS.Handle.mk (pathOf (Logging.fileName surroundings.now :: folder)) .append
  for line in lines do
    file.putStrLn line

end PhotonFerry.Terminal

open PhotonFerry PhotonFerry.Terminal in
/-- Run the program on the words of its command line. -/
def main (words : List String) : IO UInt32 := do
  let request := CommandLine.Request.ofWords words
  let surroundings ← loadSurroundings request
  let (ending, disk) := CommandLine.Program.run words surroundings
  store surroundings.disk disk
  let lines := ending.records.map LogRecord.line
  for line in ending.remarks ++ lines do
    IO.eprintln line
  if !lines.isEmpty then fileLines { surroundings with disk } request lines
  IO.print ending.output
  return UInt32.ofNat ending.status
