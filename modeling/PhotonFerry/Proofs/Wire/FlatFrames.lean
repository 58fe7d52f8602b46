import PhotonFerry.Proofs.Wire.Columns
/-!
# Flat frames

A flat frame holds the entries of a column, words or numbers of single precision, and
nothing else, so that only its length can be wrong. The length that is asked for is
compared with it as a number: one that no 64-bit word holds is refused, also where what
a word keeps of it is the length of the frame.
-/

namespace PhotonFerry.Wire

section Reading

variable {α : Type} [Packed α] {frame : ByteArray} {index count : Nat}

/-- A frame is read as a column exactly when it is as long as is asked for and is the
frame of that column. -/
theorem readColumn_eq_ok_iff {column : Array α} : readColumn frame index count = .ok column ↔
    frame.size = count * wordSize ∧ columnFrame column = frame := by
  constructor
  · intro read
    unfold readColumn at read
    split at read
    · simp at read
    · rename_i checked
      have size : frame.size = count * wordSize := checkLength_eq_ok_iff.mp checked
      obtain rfl : columnOf frame = column := by simpa using read
      exact ⟨size, columnFrame_columnOf size⟩
  · rintro ⟨size, rfl⟩
    have checked : checkLength (columnFrame column) index count = .ok () :=
      checkLength_eq_ok_iff.mpr size
    simp only [readColumn, checked, columnOf_columnFrame]

/-- Reading fails exactly when the check of the length does, and with its error. -/
theorem readColumn_eq_error_iff {reason : WireError} :
    (readColumn frame index count : Except WireError (Array α)) = .error reason ↔
      checkLength frame index count = .error reason := by
  unfold readColumn
  split <;> simp [*]

/-- A frame can be read exactly when it is as long as is asked for. -/
theorem exists_readColumn_iff :
    (∃ column : Array α, readColumn frame index count = .ok column) ↔
      frame.size = count * wordSize := by
  simp only [readColumn_eq_ok_iff]
  constructor
  · rintro ⟨-, size, -⟩
    exact size
  · intro size
    exact ⟨columnOf frame, size, columnFrame_columnOf size⟩

end Reading

/-- What reading frame number `index` as `count` entries comes to. -/
structure ReadsFlat (α : Type) [Packed α] (frame : ByteArray) (index count : Nat) : Prop where
  succeeds : (∃ column : Array α, readColumn frame index count = .ok column) ↔
    frame.size = count * wordSize
  /-- The column has the entries that the frame spells, in its order and no others. -/
  spelled : ∀ column : Array α, readColumn frame index count = .ok column →
    column.size = count ∧ columnFrame column = frame ∧
      ∀ place, wordAt? frame (place * wordSize) = column[place]?.map Packed.toWord
  /-- A length that is no 64-bit word is reported as such, any other beside that of the frame. -/
  fails : ∀ reason, (readColumn frame index count : Except WireError (Array α)) = .error reason ↔
    frame.size ≠ count * wordSize ∧
      (twoTo 64 ≤ count * wordSize ∧
          reason = .decodeError s!"frame {index}: element count {count} overflows" ∨
        count * wordSize < twoTo 64 ∧
          reason = .frameLength index (count * wordSize) frame.size)

variable (α : Type) [Packed α]

/-- Reading a flat frame follows its length. -/
theorem readsFlat (frame : ByteArray) (index count : Nat) : ReadsFlat α frame index count where
  succeeds := exists_readColumn_iff
  spelled column read := by
    obtain ⟨size, written⟩ := readColumn_eq_ok_iff.mp read
    have held : column = columnOf frame := (columnFrame_eq_iff size).mp written
    refine ⟨?_, written, fun place => ?_⟩
    · rw [held, size_columnOf_of_size size]
    · rw [held]
      exact wordAt?_eq_getElem?_columnOf size place
  fails reason := readColumn_eq_error_iff.trans checkLength_eq_error_iff

/-- A length that is right only after wrapping round a word is beyond every word. -/
theorem le_of_wrapped {length : Nat} {count : UInt64} (wrapped : length = (count * 4).toNat)
    (wrong : length ≠ count.toNat * wordSize) : twoTo 64 ≤ count.toNat * wordSize := by
  have four : (4 : UInt64).toNat = wordSize := rfl
  rw [UInt64.toNat_mul, four] at wrapped
  refine Nat.le_of_not_lt fun fits => wrong ?_
  rw [wrapped]
  exact Nat.mod_eq_of_lt fits

/-- Flat frames are exact. A frame is read as so many entries exactly when it has four bytes
for each, and is then the frame of what is read; else the error tells both lengths, or that
no word holds the one asked for. A column comes back bit for bit from its frame. A length
that is right only after wrapping round a word is refused. -/
theorem flat_frames_exact :
    (∀ frame index count, ReadsFlat α frame index count) ∧
    (∀ (column : Array α) index, readColumn (columnFrame column) index column.size = .ok column) ∧
    ∀ (frame : ByteArray) index (count : UInt64), frame.size = (count * 4).toNat →
      frame.size ≠ count.toNat * wordSize →
      (readColumn frame index count.toNat : Except WireError (Array α)) =
        .error (.decodeError s!"frame {index}: element count {count.toNat} overflows") := by
  refine ⟨readsFlat α, fun column index => ?comesBack, fun frame index count wrapped wrong => ?_⟩
  case comesBack => exact readColumn_eq_ok_iff.mpr ⟨size_columnFrame column, rfl⟩
  have beyond : twoTo 64 ≤ count.toNat * wordSize := le_of_wrapped wrapped wrong
  exact ((readsFlat α frame index count.toNat).fails _).mpr ⟨wrong, .inl ⟨beyond, rfl⟩⟩

/-- So many entries that the number of their bytes wraps round to none. -/
example : (readColumn .empty 3 (twoTo 62) : Except WireError (Array Single)) =
    .error (.decodeError "frame 3: element count 4611686018427387904 overflows") := by
  rfl

end PhotonFerry.Wire
