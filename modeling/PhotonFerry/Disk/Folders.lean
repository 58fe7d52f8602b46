import PhotonFerry.Disk.Basic
import PhotonFerry.Journal
/-!
# Making folders

A folder is made together with those on the way to it that are missing: from the
path itself up to the first folder that is there or can be made, and down again.
-/

namespace PhotonFerry.Disk

/-- Make the folder at the end of some names, the last one first. -/
def makeFolder (absolute : Bool) (backwards : List String) :
    Action Disk (Except DiskError Unit) := fun disk =>
  let target : Except DiskError Place := do
    let spot ← (← disk.start absolute).walk backwards.reverse
    if spot.node.isSome then .error .taken else .ok spot.place
  match target with
  | .ok place => ⟨.ok (), disk.put place .emptyFolder, []⟩
  | .error reason => ⟨.error reason, disk, []⟩

/-- Whether names, the last one first, lead to a folder. -/
def leadsToFolder (disk : Disk) (absolute : Bool) (backwards : List String) : Bool :=
  match (disk.start absolute).bind (·.walk backwards.reverse) with
  | .ok spot => (spot.node.map DiskNode.isFolder).getD false
  | .error _ => false

/-- Make a folder as `makeFolder` does; one that is there already will do. -/
def ensureFolder (absolute : Bool) (backwards : List String) :
    Action Disk (Except DiskError Unit) := do
  match ← makeFolder absolute backwards with
  | .error .taken =>
    let disk ← Action.get
    return if disk.leadsToFolder absolute backwards then .ok () else .error .taken
  | ended => return ended

/-- The names on the way to the folder that holds the named one, the last one
first. -/
def holder (backwards : List String) : List String :=
  (backwards.dropWhile (· = ".")).tail.dropWhile (· = ".")

theorem length_holder_lt (name : String) (before : List String) :
    (holder (name :: before)).length < (name :: before).length := by
  have dropped (names : List String) : (names.dropWhile (· = ".")).length ≤ names.length :=
    (List.dropWhile_sublist _).length_le
  have inner := dropped (name :: before)
  have outer := dropped ((name :: before).dropWhile (· = ".")).tail
  simp only [holder, List.length_tail] at outer ⊢
  simp only [List.length_cons] at inner ⊢
  omega

/-- Find the folders that are missing on the way to the one with the given names,
the last one first, and make the first of them. The others are left, the outermost
one first, before those in `missing`. -/
def ensureOutermost (absolute : Bool) (missing : List (List String)) :
    List String → Action Disk (Except DiskError (List (List String)))
  | [] => return .ok missing
  | name :: before => do
    match ← ensureFolder absolute (name :: before) with
    | .ok () => return .ok missing
    | .error .notFound =>
      ensureOutermost absolute ((name :: before) :: missing) (holder (name :: before))
    | .error reason => return .error reason
termination_by backwards => backwards.length
decreasing_by exact length_holder_lt name before

/-- Make folders one after the other, up to the first that cannot be made. -/
def ensureAll (absolute : Bool) : List (List String) → Action Disk (Except DiskError Unit)
  | [] => return .ok ()
  | backwards :: rest => do
    match ← ensureFolder absolute backwards with
    | .ok () => ensureAll absolute rest
    | .error reason => return .error reason

/-- Make the folder under a path, and the folders on the way to it that are
missing. Nothing is made for the empty path. -/
def makeFolders (path : String) : Action Disk (Except DiskError Unit) := do
  let (absolute, steps) := names path
  match flaw? path with
  | some .notFound => return .ok ()
  | some reason => return .error reason
  | none =>
    match ← ensureOutermost absolute [] (steps.filter (· ≠ "")).reverse with
    | .error reason => return .error reason
    | .ok missing => ensureAll absolute missing

end PhotonFerry.Disk
