import PhotonFerry.Disk.Node
/-!
# Disks

A disk is a tree of folders and files, seen from a working folder. Paths are
texts; a path means the place that it leads to, and every folder on the way must
be there. Neither a path nor a name in it may be too long. A disk holds what a
program may come across, not a whole machine: what it does not mention does not
exist.
-/

namespace PhotonFerry

/-- Why a disk cannot do what it is asked for. -/
inductive DiskError where
  | notFound
  | taken
  | notFolder
  | isFolder
  | tooLong
  | nulByte
  | notText
  deriving DecidableEq, Repr

/-- The report of an error. -/
def DiskError.message : DiskError → String
  | notFound => "No such file or directory (os error 2)"
  | taken => "File exists (os error 17)"
  | notFolder => "Not a directory (os error 20)"
  | isFolder => "Is a directory (os error 21)"
  | tooLong => "File name too long (os error 36)"
  | nulByte => "file name contained an unexpected NUL byte"
  | notText => "stream did not contain valid UTF-8"

/-- A folder with all that is below it, and the place in it that relative paths
start from. A fresh disk has a file that is always empty and a folder to work in. -/
structure Disk where
  home : Place := ["work", "tmp"]
  root : DiskNode := .folder [
    ("dev", .folder [("null", .file (.text "") 0)]), ("tmp", .folder [("work", .emptyFolder)])]

/-- A place that was walked to. -/
structure Spot where
  /-- What stands there. -/
  node : Option DiskNode
  /-- The names on the way to it, the last one first, each with the folder that it
  was looked for in. -/
  trail : List (String × DiskNode)

namespace Spot

/-- The most bytes of a name. -/
def mostNameBytes : Nat := 255

/-- The place that it is. -/
def place (spot : Spot) : Place :=
  spot.trail.map Prod.fst

/-- Go one step on from a folder. -/
def step (spot : Spot) (name : String) : Except DiskError Spot :=
  match spot.node with
  | none => .error .notFound
  | some (.file ..) => .error .notFolder
  | some (.folder entries) =>
    if name = "" ∨ name = "." then .ok spot
    else if name = ".." then
      match spot.trail with
      | [] => .ok spot
      | (_, parent) :: trail => .ok ⟨some parent, trail⟩
    else if mostNameBytes < name.utf8ByteSize then .error .tooLong
    else .ok ⟨entries.lookup name, (name, .folder entries) :: spot.trail⟩

/-- Go on by some steps, the first one first. -/
def walk (spot : Spot) (steps : List String) : Except DiskError Spot :=
  steps.foldlM step spot

end Spot

namespace Disk

/-- What stands at a place. -/
def at? (disk : Disk) (place : Place) : Option DiskNode :=
  disk.root.below? place.reverse

/-- Change what stands at a place. -/
def modifyAt (disk : Disk) (place : Place) (change : DiskNode → DiskNode) : Disk :=
  { disk with root := disk.root.modify change place.reverse }

/-- What stands at a place after a change there is the changed node. -/
theorem at?_modifyAt (disk : Disk) (place : Place) (change : DiskNode → DiskNode) :
    (disk.modifyAt place change).at? place = (disk.at? place).map change :=
  DiskNode.below?_modify change place.reverse disk.root

/-- Put a node at a place, whatever stood there, if the folder that it belongs to
is there. -/
def put (disk : Disk) (place : Place) (node : DiskNode) : Disk :=
  match place with
  | [] => { disk with root := node }
  | name :: parent => disk.modifyAt parent (.withChild name node)

/-- What is in the folder at a place, by name. -/
def entries (disk : Disk) (place : Place) : List (String × DiskNode) :=
  ((disk.at? place).map DiskNode.entries).getD []

/-- The places of a disk and what stands there. -/
def nodes (disk : Disk) : List (Place × DiskNode) :=
  disk.root.listing []

/-- The names in a path, and whether it starts from the root. -/
def names (path : String) : Bool × List String :=
  (path.startsWith "/", (path.toList.splitOn '/').map String.ofList)

/-- The place that paths start from. -/
def start (disk : Disk) (absolute : Bool) : Except DiskError Spot :=
  let root : Spot := ⟨some disk.root, []⟩
  if absolute then .ok root else root.walk disk.home.reverse

/-- The most bytes of a path. -/
def mostPathBytes : Nat := 4095

/-- Why a path cannot lead anywhere, whatever the disk holds. -/
def flaw? (path : String) : Option DiskError :=
  if path.toList.contains '\x00' then some .nulByte
  else if path = "" then some .notFound
  else if mostPathBytes < path.utf8ByteSize then some .tooLong
  else none

/-- The end of a path; all but the last name must be there. -/
def follow (disk : Disk) (path : String) : Except DiskError Spot :=
  match flaw? path with
  | some reason => .error reason
  | none => do
    let (absolute, steps) := names path
    (← disk.start absolute).walk steps

/-- The place that a path means; all but the last name must be there. -/
def locate (disk : Disk) (path : String) : Except DiskError Place :=
  (disk.follow path).map Spot.place

/-- The place of the folder that a path means. -/
def folderAt (disk : Disk) (path : String) : Except DiskError Place := do
  let spot ← disk.follow path
  match spot.node with
  | some (.folder _) => .ok spot.place
  | some (.file ..) => .error .notFolder
  | none => .error .notFound

/-- What stands under a path. -/
def find (disk : Disk) (path : String) : Except DiskError DiskNode := do
  match (← disk.follow path).node with
  | some node => .ok node
  | none => .error .notFound

/-- Whether anything stands under a path. -/
def has (disk : Disk) (path : String) : Bool :=
  (disk.find path).isOk

/-- The text of a file. -/
def readText (disk : Disk) (path : String) : Except DiskError String := do
  match ← disk.find path with
  | .folder _ => .error .isFolder
  | .file (.text contents) _ => .ok contents
  | .file .. => .error .notText

/-- The path of an entry of the folder under a path. -/
def joined (path name : String) : String :=
  if path.endsWith "/" then path ++ name else path ++ "/" ++ name

end Disk

end PhotonFerry
