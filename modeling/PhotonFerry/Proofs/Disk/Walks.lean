import Mathlib.Tactic.SplitIfs
import PhotonFerry.Disk.Basic
/-!
# Where walks lead

However a path goes up and down, what is found at its end is what stands at the place
that it leads to. A change at one place is not seen at another, unless one of the two
lies below the other.
-/

namespace PhotonFerry

namespace DiskNode

/-- Names are followed one part after the other. -/
theorem below?_append (first rest : List String) (node : DiskNode) :
    node.below? (first ++ rest) = (node.below? first).bind (below? rest) := by
  induction first generalizing node with
  | nil => rfl
  | cons name first ih =>
    simp only [List.cons_append, below?]
    cases node.child? name with
    | none => rfl
    | some child => exact ih child

/-- A change under one name is not seen under another. -/
theorem lookup_map_beside (change : DiskNode → DiskNode) {name other : String}
    (different : other ≠ name) (entries : List (String × DiskNode)) :
    (entries.map fun (held, child) =>
      (held, if held = name then change child else child)).lookup other
      = entries.lookup other := by
  induction entries with
  | nil => rfl
  | cons entry rest ih =>
    obtain ⟨held, child⟩ := entry
    by_cases same : other = held
    · subst same
      simp [different]
    · have unheld : (other == held) = false := by simpa using same
      simp only [List.map_cons, List.lookup_cons, unheld]
      exact ih

/-- A change at the end of names is not seen at the end of others that neither go on from
them nor lead to them. -/
theorem below?_modify_apart (change : DiskNode → DiskNode) {names others : List String}
    (further : ¬ names <+: others) (before : ¬ others <+: names) (node : DiskNode) :
    (node.modify change names).below? others = node.below? others := by
  induction names generalizing others node with
  | nil => exact absurd List.nil_prefix further
  | cons name names ih =>
    cases others with
    | nil => exact absurd List.nil_prefix before
    | cons other others =>
      cases node with
      | file contents modified => rfl
      | folder entries =>
        simp only [modify, below?, child?, DiskNode.entries]
        by_cases same : other = name
        · subst same
          rw [List.cons_prefix_cons] at further before
          rw [lookup_map_under]
          cases entries.lookup other with
          | none => rfl
          | some child =>
            exact ih (fun inner => further ⟨rfl, inner⟩) (fun inner => before ⟨rfl, inner⟩) child
        · rw [lookup_map_beside _ same]

end DiskNode

namespace Disk

/-- What stands in a folder is looked up in it. -/
theorem at?_cons (disk : Disk) (name : String) (place : Place) :
    disk.at? (name :: place) = (disk.at? place).bind (·.child? name) := by
  rw [at?, List.reverse_cons, DiskNode.below?_append, ← at?]
  cases disk.at? place with
  | none => rfl
  | some node => exact Option.bind_fun_some (node.child? name)

/-- A change at a place is not seen at a place that lies neither below nor above it. -/
theorem at?_modifyAt_apart (disk : Disk) (change : DiskNode → DiskNode) {place other : Place}
    (below : ¬ place <:+ other) (above : ¬ other <:+ place) :
    (disk.modifyAt place change).at? other = disk.at? other :=
  DiskNode.below?_modify_apart change (mt List.reverse_prefix.mp below)
    (mt List.reverse_prefix.mp above) disk.root

end Disk

/-- The folders in which names were looked for stand where the names led to. -/
def Disk.Marks (disk : Disk) : List (String × DiskNode) → Prop
  | [] => True
  | (_, parent) :: trail => disk.at? (trail.map Prod.fst) = some parent ∧ disk.Marks trail

/-- A spot is on a disk: what it found stands there, and so do the folders on its trail. -/
structure Spot.IsOn (spot : Spot) (disk : Disk) : Prop where
  node : disk.at? spot.place = spot.node
  marks : disk.Marks spot.trail

namespace Spot

variable {disk : Disk} {spot last : Spot}

/-- A step goes on from a folder: nowhere, up, or to what the folder holds. -/
theorem step_eq_ok {name : String} (stepped : spot.step name = .ok last) :
    ∃ entries, spot.node = some (.folder entries) ∧
      (last = spot ∨ (∃ above parent trail, spot.trail = (above, parent) :: trail ∧
          last = ⟨some parent, trail⟩) ∨
        last = ⟨entries.lookup name, (name, .folder entries) :: spot.trail⟩) := by
  obtain ⟨node, trail⟩ := spot
  rcases node with _ | ⟨entries⟩ | _
  · exact nomatch stepped
  · refine ⟨entries, rfl, ?_⟩
    simp only [Spot.step] at stepped
    split_ifs at stepped with stays up long
    · exact .inl (Except.ok.inj stepped).symm
    · rcases trail with _ | ⟨⟨above, parent⟩, trail⟩
      · exact .inl (Except.ok.inj stepped).symm
      · exact .inr (.inl ⟨above, parent, trail, rfl, (Except.ok.inj stepped).symm⟩)
    · exact .inr (.inr (Except.ok.inj stepped).symm)
  · exact nomatch stepped

/-- One step stays on the disk. -/
theorem IsOn.step {name : String} (here : spot.IsOn disk) (stepped : spot.step name = .ok last) :
    last.IsOn disk := by
  obtain ⟨entries, folder, rfl | ⟨above, parent, trail, passed, rfl⟩ | rfl⟩ := step_eq_ok stepped
  · exact here
  · have marks := passed ▸ here.marks
    exact ⟨marks.1, marks.2⟩
  · have stands : disk.at? spot.place = some (.folder entries) := here.node.trans folder
    refine ⟨?_, stands, here.marks⟩
    exact (disk.at?_cons name spot.place).trans (by rw [stands]; rfl)

/-- A walk stays on the disk. -/
theorem IsOn.walk {steps : List String} (here : spot.IsOn disk)
    (walked : spot.walk steps = .ok last) : last.IsOn disk := by
  induction steps generalizing spot with
  | nil => exact Except.ok.inj walked ▸ here
  | cons name steps ih =>
    simp only [Spot.walk, List.foldlM_cons] at walked
    cases stepped : spot.step name with
    | error reason => simp [stepped, bind, Except.bind] at walked
    | ok next =>
      rw [stepped] at walked
      exact ih (here.step stepped) walked

end Spot

namespace Disk

variable {disk : Disk} {path : String}

/-- What stands at the end of a path stands at the place that the path means. -/
theorem at?_place_of_follow {spot : Spot} (followed : disk.follow path = .ok spot) :
    disk.at? spot.place = spot.node := by
  have root : Spot.IsOn ⟨some disk.root, []⟩ disk := ⟨rfl, trivial⟩
  have start {absolute : Bool} {first : Spot} (started : disk.start absolute = .ok first) :
      first.IsOn disk := by
    cases absolute with
    | true => exact Except.ok.inj started ▸ root
    | false => exact root.walk started
  rw [follow] at followed
  cases flaw : flaw? path with
  | some reason => simp [flaw] at followed
  | none =>
    simp only [flaw] at followed
    cases started : disk.start (names path).1 with
    | error reason => simp [started, bind, Except.bind] at followed
    | ok first =>
      simp only [started, bind, Except.bind] at followed
      exact ((start started).walk followed).node

/-- A folder that a path means stands at its place. -/
theorem exists_entries_of_folderAt {folder : Place} (found : disk.folderAt path = .ok folder) :
    disk.at? folder = some (.folder (disk.entries folder)) := by
  rw [folderAt] at found
  cases followed : disk.follow path with
  | error reason => simp [followed, bind, Except.bind] at found
  | ok spot =>
    have stands := at?_place_of_follow followed
    simp only [followed, bind, Except.bind] at found
    match node : spot.node, found with
    | some (.folder entries), found =>
      obtain rfl := Except.ok.inj found
      simp [Disk.entries, stands, node, DiskNode.entries]

end Disk

end PhotonFerry
