import PhotonFerry.Wire.Column
/-!
# Messages

A message is an ordered list of frames, the first of which is its tag.
-/

namespace PhotonFerry.Wire

/-- The frames of a message in order. -/
abbrev Message := List ByteArray

/-- The tag of a message. -/
def peekTag (message : Message) : Except WireError Tag :=
  match message with
  | [] => .error (.incompleteFrame 1 0)
  | frame :: _ =>
    match Tag.ofFrame? frame with
    | some tag => .ok tag
    | none => .error (.unknownTag (Utf8.decodeLossy frame))

/-- A message has a tag exactly when the tag's frame begins it. -/
theorem peekTag_eq_ok_iff {message : Message} {tag : Tag} :
    peekTag message = .ok tag ↔ ∃ rest, message = tag.frame :: rest := by
  unfold peekTag
  split
  · simp
  · rename_i frame rest
    simp only [List.cons.injEq, exists_and_left, exists_eq', and_true,
      ← Tag.ofFrame?_eq_some_iff]
    split <;> simp_all

/-- Check that a message has the given tag. -/
def expectTag (message : Message) (expected : Tag) : Except WireError Unit :=
  match peekTag message with
  | .error reason => .error reason
  | .ok tag => if tag = expected then .ok () else .error (.unexpectedTag expected.name tag.name)

/-- A message has the tag that is expected exactly when that tag's frame begins it. -/
theorem expectTag_eq_ok_iff {message : Message} {expected : Tag} :
    expectTag message expected = .ok () ↔ ∃ rest, message = expected.frame :: rest := by
  rw [← peekTag_eq_ok_iff]
  unfold expectTag
  split
  · simp [*]
  · split <;> simp [*]

/-- Check the frames of a message from number `index` on for `count` entries each. -/
def checkLengths (count : Nat) (index : Nat) : List ByteArray → Except WireError Unit
  | [] => .ok ()
  | frame :: rest =>
    match checkLength frame index count with
    | .error reason => .error reason
    | .ok () => checkLengths count (index + 1) rest

/-- Frames pass the check exactly when they all have the right number of bytes. -/
theorem checkLengths_eq_ok_iff {count index : Nat} {frames : List ByteArray} :
    checkLengths count index frames = .ok () ↔
      ∀ frame ∈ frames, frame.size = count * wordSize := by
  induction frames generalizing index with
  | nil => simp [checkLengths]
  | cons frame rest step =>
    have first : checkLength frame index count = .ok () ↔ frame.size = count * wordSize :=
      checkLength_eq_ok_iff
    have later : checkLengths count (index + 1) rest = .ok () ↔ _ := step
    rw [List.forall_mem_cons, ← first, ← later, checkLengths]
    split <;> simp [*]

end PhotonFerry.Wire
