import PhotonFerry.Disk.Basic
import PhotonFerry.Recording.Location
/-!
# Recordings on a disk

The path of a recording is put in order before it is followed: a name and the two
dots behind it cancel out even if nothing stands under the name. Only a file that
stands in the way of a name, and a name or a path that is too long, keep a path from
being put in order.

A journal beside a recording tells of unfinished work on it. The work cannot be
undone by someone who only reads, so that the recording cannot be read.
-/

namespace PhotonFerry.Disk

open Recording (Bytes Location StoredFile StoreError)

/-- The most bytes of the path of a recording, once it is in order. -/
def mostRecordingBytes : Nat := 504

/-- The most bytes of a path while it is put in order. -/
def mostUnorderedBytes : Nat := 511

/-- The bytes of a path that is in order, given by its names. -/
def lengthOf (names : List Bytes) : Nat :=
  names.foldl (fun total name => total + name.length + 1) 0

/-- A name as the disk knows it. Bytes that are no text name nothing, and neither
does a slash. -/
def knownName (name : Bytes) : String :=
  (String.fromUTF8? ⟨name.toArray⟩).getD "/"

/-- The end of names from the root, the last one first. -/
def followNames (disk : Disk) (names : List Bytes) : Except DiskError Spot := do
  (← disk.start true).walk (names.reverse.map knownName)

/-- Whether a path in order can be looked for. Nothing need stand under it, but no
file may stand in its way. -/
def isOpenWay (disk : Disk) (names : List Bytes) : Bool :=
  match disk.followNames names with
  | .ok _ => true
  | .error reason => reason = .notFound

/-- Add a name to a path in order, the last name first. -/
def addName (disk : Disk) (names : List Bytes) (name : Bytes) : Option (List Bytes) :=
  if name = [] ∨ name = Recording.bytesOf "." then some names
  else if name = Recording.bytesOf ".." then some names.tail
  else if mostUnorderedBytes < lengthOf (name :: names) then none
  else if disk.isOpenWay (name :: names) then some (name :: names)
  else none

/-- The names that a path starts from, the last one first. -/
def startNames (disk : Disk) (path : Bytes) : List Bytes :=
  if path.head? = some (Recording.byteOf '/') then [] else disk.home.map Recording.bytesOf

/-- The path in order that a path means. -/
def inOrder? (disk : Disk) (path : Bytes) : Option (List Bytes) := do
  let names ← (path.splitOn (Recording.byteOf '/')).foldlM disk.addName (disk.startNames path)
  if names.isEmpty ∨ mostRecordingBytes < lengthOf names then none else some names

/-- What a file is as a recording, if it is opened in some mode. A file without
contents is a recording without tables, and so is one that had to be made. -/
def recordingOf (mode : Recording.AccessMode) : Except DiskError Spot → StoredFile
  | .error _ => .absent
  | .ok spot =>
    match spot.node with
    | none => if mode = .create then .database {} else .absent
    | some (.folder _) => if mode = .readOnly then .folder else .absent
    | some (.file (.text "") _) => .database {}
    | some (.file (.text _) _) => .foreign
    | some (.file (.recording contents) _) => .database contents
    | some (.file .other _) => .foreign

/-- Whether anything stands under a path that is given by its bytes. -/
def hasBytes (disk : Disk) (path : Bytes) : Bool :=
  match String.fromUTF8? ⟨path.toArray⟩ with
  | some path => disk.has path
  | none => false

/-- What the name of the journal of a recording ends in. -/
def journalEnding : Bytes := Recording.bytesOf "-journal"

/-- What stands at the end of names, the last one first. -/
def nodeAt? (disk : Disk) (names : List Bytes) : Option DiskNode :=
  match disk.followNames names with
  | .ok spot => spot.node
  | .error _ => none

/-- Whether a file has contents that begin with another byte than zero. -/
def isBegun : FileContents → Bool
  | .text contents => contents ≠ "" && !contents.startsWith "\x00"
  | _ => true

/-- What the journal beside the file at the end of names keeps from reading. -/
def journalFault? (disk : Disk) : List Bytes → Option StoreError
  | [] => none
  | name :: parent =>
    match disk.nodeAt? (name :: parent), disk.nodeAt? ((name ++ journalEnding) :: parent) with
    | some (.file (.text "") _), _ => none
    | some (.file ..), some (.folder _) => some .diskFailure
    | some (.file ..), some (.file contents _) =>
      if isBegun contents then some .readOnly else none
    | _, _ => none

/-- Whether the journal of a recording matters: not to a writer, who can undo what was
left unfinished, not if the recording is promised not to change, and not if the work
seems to be still going on. -/
def heedsJournal (location : Location) : Bool :=
  location.mode = .readOnly && !location.settled && location.system ≠ .coarseDisk

/-- What a location on the disk leads to. -/
def recordingIn (disk : Disk) (location : Location) : StoredFile :=
  match disk.inOrder? location.path with
  | none => .absent
  | some names =>
    if location.model.any fun model => !disk.hasBytes model then .unreachable .diskFailure
    else
      match if heedsJournal location then disk.journalFault? names else none with
      | some reason => .unreachable reason
      | none => recordingOf location.mode (disk.followNames names)

/-- The most bytes of a name in a file system that keeps nothing. -/
def mostMemoryBytes : Nat := 1016

/-- What a text leads to as the name of a recording. -/
def recordingAt (disk : Disk) (text : String) : StoredFile :=
  match Location.ofText text with
  | .error reason => .unreachable reason
  | .ok location =>
    if location.isNew then .database {}
    else
      match location.system with
      | .disk => disk.recordingIn location
      | .coarseDisk => disk.recordingIn location
      | .memory => if mostMemoryBytes < location.path.length then .absent else .database {}

end PhotonFerry.Disk
