import PhotonFerry.Wire.DetectorInfo
/-!
# What describes a detector

A message is read as a description of the detector exactly when it has the form of
one. Where it is not read, the error tells whether it belongs elsewhere, because
another tag or none that is known begins it, or is wrong in itself. A message without
frames has no tag, and its error counts it among those that are wrong in themselves.
-/

namespace PhotonFerry.Wire

/-- The tag of a description begins the message. -/
def HasDetectorTag (message : Message) : Prop :=
  ∃ rest, message = Tag.detectorInfo.frame :: rest

/-- The message has the form of a description: behind the whole tag come four columns
of one length. -/
def Describes (message : Message) : Prop :=
  ∃ (xs ys zs types : ByteArray) (count : Nat),
    message = [Tag.detectorInfo.frame, xs, ys, zs, types] ∧
    ∀ column ∈ [xs, ys, zs, types], column.size = count * wordSize

/-- A first frame shows that the message describes no detector. -/
def BelongsElsewhere (message : Message) : Prop :=
  message ≠ [] ∧ ¬ HasDetectorTag message

/-- Only the tag of a description, or the want of any frame, leaves this open. -/
theorem not_belongsElsewhere_iff {message : Message} :
    ¬ BelongsElsewhere message ↔ message = [] ∨ HasDetectorTag message := by
  simp only [BelongsElsewhere, Classical.not_and_iff_not_or_not, ne_eq, Classical.not_not]

/-- The message has the tag of a description and not the form of one. -/
def Misdescribes (message : Message) : Prop :=
  HasDetectorTag message ∧ ¬ Describes message

/-- A description has its tag. -/
theorem Describes.hasDetectorTag {message : Message} (describes : Describes message) :
    HasDetectorTag message := by
  obtain ⟨xs, ys, zs, types, count, rfl, -⟩ := describes
  exact ⟨_, rfl⟩

/-- Whether an error is that of a message that belongs elsewhere: its tag is another one, or
none that is known. -/
def WireError.belongsElsewhere : WireError → Bool
  | unknownTag _ => true
  | reason => reason.isStale

section Errors

variable {message : Message} {reason : WireError}

/-- Of the messages whose tag is not the one that is expected, all belong elsewhere that have
a frame. -/
theorem belongsElsewhere_of_expectTag {expected : Tag}
    (failed : expectTag message expected = .error reason) :
    reason.belongsElsewhere = true ↔ message ≠ [] := by
  unfold expectTag peekTag at failed
  cases message with
  | nil =>
    obtain rfl : WireError.incompleteFrame 1 0 = reason := by simpa using failed
    exact iff_of_false Bool.false_ne_true (by simp)
  | cons frame rest =>
    refine iff_of_true ?_ (by simp)
    cases found : Tag.ofFrame? frame with
    | none =>
      simp only [found, Except.error.injEq] at failed
      exact failed ▸ rfl
    | some tag =>
      simp only [found] at failed
      split at failed
      · exact nomatch failed
      · exact Except.error.inj failed ▸ rfl

/-- A column of the wrong length is wrong in itself. -/
theorem belongsElsewhere_of_checkLength {column : ByteArray} {index count : Nat}
    (failed : checkLength column index count = .error reason) :
    reason.belongsElsewhere = false := by
  obtain ⟨-, ⟨-, rfl⟩ | ⟨-, rfl⟩⟩ := checkLength_eq_error_iff.mp failed
  · rfl
  · rfl

theorem belongsElsewhere_of_checkLengths {count index : Nat} {columns : List ByteArray}
    (failed : checkLengths count index columns = .error reason) :
    reason.belongsElsewhere = false := by
  induction columns generalizing index with
  | nil => exact nomatch failed
  | cons column rest step =>
    rw [checkLengths] at failed
    split at failed
    · rename_i flaw checked
      exact belongsElsewhere_of_checkLength (Except.error.inj failed ▸ checked)
    · exact step failed

/-- A column that ends within an entry is wrong in itself. -/
theorem belongsElsewhere_of_entryCount {column : ByteArray} {index : Nat}
    (failed : entryCount column index = .error reason) : reason.belongsElsewhere = false := by
  unfold entryCount at failed
  split at failed
  · exact nomatch failed
  · exact Except.error.inj failed ▸ rfl

/-- Behind the right tag, four columns are read exactly when they have one length. -/
theorem decodeDetectorInfo_eq_ok_iff {info : DetectorInfo} :
    decodeDetectorInfo message = .ok info ↔
      ∃ (xs ys zs types : ByteArray) (count : Nat),
        message = [Tag.detectorInfo.frame, xs, ys, zs, types] ∧
        (∀ column ∈ [xs, ys, zs, types], column.size = count * wordSize) ∧
        info = {
          positions := pointsOf (columnOf xs).toList (columnOf ys).toList (columnOf zs).toList
          types := (columnOf types).toList } := by
  constructor
  · intro decoded
    unfold decodeDetectorInfo at decoded
    split at decoded
    · exact nomatch decoded
    · rename_i tagged
      obtain ⟨rest, rfl⟩ := expectTag_eq_ok_iff.mp tagged
      split at decoded
      · rename_i tag xs ys zs types found
        obtain ⟨rfl, rfl⟩ := List.cons.inj found
        split at decoded
        · exact nomatch decoded
        · split at decoded
          · exact nomatch decoded
          · rename_i count _ _ checked
            exact ⟨xs, ys, zs, types, count, rfl, checkLengths_eq_ok_iff.mp checked,
              (Except.ok.inj decoded).symm⟩
      · exact nomatch decoded
  · rintro ⟨xs, ys, zs, types, count, rfl, sizes, rfl⟩
    have tagged : expectTag [Tag.detectorInfo.frame, xs, ys, zs, types] .detectorInfo = .ok () :=
      expectTag_eq_ok_iff.mpr ⟨_, rfl⟩
    have counted : entryCount xs 1 = .ok count :=
      entryCount_eq_ok_iff.mpr (sizes xs List.mem_cons_self)
    have checked : checkLengths count 1 [xs, ys, zs, types] = .ok () :=
      checkLengths_eq_ok_iff.mpr sizes
    simp only [decodeDetectorInfo, tagged, counted, checked]

/-- A message is read as a description exactly when it has the form of one. -/
theorem exists_decodeDetectorInfo_iff :
    (∃ info, decodeDetectorInfo message = .ok info) ↔ Describes message := by
  simp only [decodeDetectorInfo_eq_ok_iff]
  constructor
  · rintro ⟨info, xs, ys, zs, types, count, begins, sizes, -⟩
    exact ⟨xs, ys, zs, types, count, begins, sizes⟩
  · rintro ⟨xs, ys, zs, types, count, begins, sizes⟩
    exact ⟨_, xs, ys, zs, types, count, begins, sizes, rfl⟩

/-- The error of a message that is not read tells whether it belongs elsewhere. -/
theorem belongsElsewhere_of_decodeDetectorInfo
    (failed : decodeDetectorInfo message = .error reason) :
    reason.belongsElsewhere = true ↔ BelongsElsewhere message := by
  unfold decodeDetectorInfo at failed
  split at failed
  · rename_i flaw untagged
    obtain rfl := Except.error.inj failed
    rw [belongsElsewhere_of_expectTag untagged, BelongsElsewhere, iff_self_and]
    rintro - begins
    exact nomatch untagged.symm.trans (expectTag_eq_ok_iff.mpr begins)
  · rename_i tagged
    have begins : HasDetectorTag message := expectTag_eq_ok_iff.mp tagged
    refine iff_of_false (Bool.not_eq_true _ ▸ ?_) fun elsewhere => elsewhere.2 begins
    split at failed
    · split at failed
      · rename_i flaw uncounted
        exact belongsElsewhere_of_entryCount (Except.error.inj failed ▸ uncounted)
      · split at failed
        · rename_i flaw unequal
          exact belongsElsewhere_of_checkLengths (Except.error.inj failed ▸ unequal)
        · exact nomatch failed
    · exact Except.error.inj failed ▸ rfl

end Errors

end PhotonFerry.Wire
