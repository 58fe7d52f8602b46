import PhotonFerry.Recording.FileFormat
/-!
# Files and folders

A folder holds files and folders under names, and a file holds a text, a recording
or something else. What stands in a folder, however deep, is selected by the names
on the way to it.
-/

namespace PhotonFerry

/-- What is in a file. -/
inductive FileContents where
  | text (contents : String)
  | recording (contents : Recording.Database)
  /-- Something that is neither. -/
  | other

/-- What the bytes of a file hold: a recording if they have the form of a database,
and otherwise a text if they are UTF-8. -/
def FileContents.ofBytes (bytes : ByteArray) : FileContents :=
  match Recording.Database.ofBytes? bytes with
  | some database => .recording database
  | none =>
    match String.fromUTF8? bytes with
    | some contents => .text contents
    | none => .other

/-- A folder with what is in it by name, or a file; a file knows the instant of its
last change, in seconds. -/
inductive DiskNode where
  | folder (entries : List (String × DiskNode))
  | file (contents : FileContents) (modified : Int)

/-- The names on the way from the root to a place, the last one first. -/
abbrev Place := List String

namespace DiskNode

/-- A folder with nothing in it. -/
def emptyFolder : DiskNode := folder []

/-- Whether it is a folder. -/
def isFolder : DiskNode → Bool
  | folder _ => true
  | file .. => false

/-- What is in a folder, by name; nothing is in a file. -/
def entries : DiskNode → List (String × DiskNode)
  | folder entries => entries
  | file .. => []

/-- What stands under a name in a folder. -/
def child? (node : DiskNode) (name : String) : Option DiskNode :=
  node.entries.lookup name

/-- What stands at the end of names, the first one first. -/
def below? : List String → DiskNode → Option DiskNode
  | [], node => some node
  | name :: rest, node => (node.child? name).bind (below? rest)

/-- Change what stands at the end of names, the first one first; if nothing stands
there, nothing changes. -/
def modify (change : DiskNode → DiskNode) : List String → DiskNode → DiskNode
  | [], node => change node
  | _ :: _, file contents modified => file contents modified
  | name :: rest, folder entries =>
    folder (entries.map fun (other, child) =>
      (other, if other = name then modify change rest child else child))

/-- Changing what stands under a name changes what is looked up under it. -/
theorem lookup_map_under (change : DiskNode → DiskNode) (name : String)
    (entries : List (String × DiskNode)) :
    (entries.map fun (other, child) =>
      (other, if other = name then change child else child)).lookup name
      = (entries.lookup name).map change := by
  induction entries with
  | nil => rfl
  | cons entry rest ih =>
    obtain ⟨other, child⟩ := entry
    by_cases same : other = name
    · subst same
      simp
    · have different : (name == other) = false := by simpa using fun equal => same equal.symm
      simp only [List.map_cons, same, if_false, List.lookup_cons, different]
      exact ih

/-- What stands at the end of names after a change there is the changed node. -/
theorem below?_modify (change : DiskNode → DiskNode) (names : List String) (node : DiskNode) :
    (node.modify change names).below? names = (node.below? names).map change := by
  induction names generalizing node with
  | nil => cases node <;> rfl
  | cons name rest ih =>
    cases node with
    | file contents modified => rfl
    | folder entries =>
      simp only [modify, below?, child?, DiskNode.entries]
      rw [lookup_map_under]
      cases entries.lookup name with
      | none => rfl
      | some child => exact ih child

/-- Put a node under a name in a folder, whatever stood there. -/
def withChild (name : String) (child : DiskNode) : DiskNode → DiskNode
  | folder entries => folder ((name, child) :: entries.filter fun (other, _) => other ≠ name)
  | file contents modified => file contents modified

/-- Keep only some of what is in a folder. -/
def keep (wanted : String → DiskNode → Bool) : DiskNode → DiskNode
  | folder entries => folder (entries.filter fun (name, child) => wanted name child)
  | file contents modified => file contents modified

mutual

/-- A node at a place, and all that stands below it, each after the folder that it
is in. -/
def listing (place : Place) : DiskNode → List (Place × DiskNode)
  | folder entries => (place, folder entries) :: listingOf place entries
  | file contents modified => [(place, file contents modified)]

/-- The listings of what is in the folder at a place. -/
def listingOf (place : Place) : List (String × DiskNode) → List (Place × DiskNode)
  | [] => []
  | (name, child) :: rest => listing (name :: place) child ++ listingOf place rest

end

end DiskNode

end PhotonFerry
