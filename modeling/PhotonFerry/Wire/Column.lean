import PhotonFerry.Number.Single
import PhotonFerry.Number.Word
import PhotonFerry.Wire.Error
/-!
# Flat column frames

A column travels as one frame: its entries one after the other, each as a 32-bit
word with the lowest byte first. A frame names no count; the reader brings the
count from elsewhere and `checkLength` compares it with the bytes that came,
before any of them is looked at.
-/

namespace PhotonFerry.Wire

/-- Values that travel as one 32-bit word, with nothing lost either way. -/
class Packed (α : Type) where
  toWord : α → UInt32
  ofWord : UInt32 → α
  ofWord_toWord : ∀ value, ofWord (toWord value) = value
  toWord_ofWord : ∀ word, toWord (ofWord word) = word

instance : Packed UInt32 where
  toWord word := word
  ofWord word := word
  ofWord_toWord _ := rfl
  toWord_ofWord _ := rfl

instance : Packed Single where
  toWord := Single.bits
  ofWord := Single.mk
  ofWord_toWord _ := rfl
  toWord_ofWord _ := rfl

/-- The number of bytes of a word. -/
def wordSize : Nat := 4

/-- The largest count that the length of a frame is compared with. -/
def countLimit : Nat := twoTo 64

/-- The four bytes of a word, lowest first. -/
def wordBytes (word : UInt32) : List UInt8 :=
  [word.toUInt8, (word >>> 8).toUInt8, (word >>> 16).toUInt8, (word >>> 24).toUInt8]

/-- The word of four bytes, lowest first. -/
def wordOf (first second third fourth : UInt8) : UInt32 :=
  first.toUInt32 ||| (second.toUInt32 <<< 8) ||| (third.toUInt32 <<< 16)
    ||| (fourth.toUInt32 <<< 24)

/-- Write the words of a column behind some bytes. -/
def packWords (words : List UInt32) : ByteArray :=
  ⟨(words.flatMap wordBytes).toArray⟩

/-- Read words until fewer than four bytes are left. -/
def unpackWords (words : Array UInt32) : List UInt8 → Array UInt32
  | first :: second :: third :: fourth :: rest =>
    unpackWords (words.push (wordOf first second third fourth)) rest
  | _ => words

/-- The word at a byte offset. -/
def wordAt? (frame : ByteArray) (offset : Nat) : Option UInt32 := do
  let first ← frame[offset]?
  let second ← frame[offset + 1]?
  let third ← frame[offset + 2]?
  let fourth ← frame[offset + 3]?
  some (wordOf first second third fourth)

/-- A word in the first bytes of a frame is a word of the frame. -/
theorem wordAt?_extract {frame : ByteArray} {size offset : Nat}
    (inside : offset + wordSize ≤ size) (short : size ≤ frame.size) :
    wordAt? (frame.extract 0 size) offset = wordAt? frame offset := by
  simp only [wordSize] at inside
  have byteAt : ∀ index < size, (frame.extract 0 size)[index]? = frame[index]? := by
    intro index before
    rw [getElem?_pos frame index (by omega),
      getElem?_pos _ index (by rw [ByteArray.size_extract]; omega), ByteArray.getElem_extract]
    simp
  simp only [wordAt?]
  rw [byteAt offset (by omega), byteAt (offset + 1) (by omega), byteAt (offset + 2) (by omega),
    byteAt (offset + 3) (by omega)]

section Column

variable {α : Type} [Packed α]

/-- The frame of a column. -/
def columnFrame (column : Array α) : ByteArray :=
  packWords (column.toList.map Packed.toWord)

/-- The column of a frame whose length has been checked. -/
def columnOf (frame : ByteArray) : Array α :=
  (unpackWords #[] frame.data.toList).map Packed.ofWord

theorem size_unpackWords (words : Array UInt32) (bytes : List UInt8) :
    (unpackWords words bytes).size = words.size + bytes.length / wordSize := by
  simp only [wordSize]
  fun_induction unpackWords words bytes with
  | case1 words first second third fourth rest step =>
    rw [step, Array.size_push]
    simp only [List.length_cons]
    omega
  | case2 bytes words short =>
    have fewer : bytes.length < 4 := by
      match bytes, short with
      | [], _ | [_], _ | [_, _], _ | [_, _, _], _ => simp
      | first :: second :: third :: fourth :: rest, short =>
        exact absurd rfl (short first second third fourth rest)
    omega

/-- A frame holds one entry for each four bytes. -/
theorem size_columnOf (frame : ByteArray) :
    (columnOf frame : Array α).size = frame.size / wordSize := by
  simp only [columnOf, Array.size_map, size_unpackWords, List.size_toArray, List.length_nil,
    Nat.zero_add, Array.length_toList]
  rfl

/-- Check that frame number `index` holds exactly `count` entries. No frame is as
long as the limit, so a count beyond it is always refused, and for that reason. The
program refuses it before it looks at the length, which comes to the same
(`checkLength_of_lt`). -/
def checkLength (frame : ByteArray) (index count : Nat) : Except WireError Unit :=
  if frame.size = count * wordSize then .ok ()
  else if countLimit ≤ count * wordSize then
    .error (.decodeError s!"frame {index}: element count {count} overflows")
  else .error (.frameLength index (count * wordSize) frame.size)

/-- A frame passes the check exactly when it has the right number of bytes. -/
theorem checkLength_eq_ok_iff {frame : ByteArray} {index count : Nat} :
    checkLength frame index count = .ok () ↔ frame.size = count * wordSize := by
  unfold checkLength
  split
  · simp [*]
  · split <;> simp [*]

/-- A frame that fails the check has another length. The error says so, unless no frame
could be as long as the one that is asked for. -/
theorem checkLength_eq_error_iff {frame : ByteArray} {index count : Nat} {reason : WireError} :
    checkLength frame index count = .error reason ↔ frame.size ≠ count * wordSize ∧
      (countLimit ≤ count * wordSize ∧
          reason = .decodeError s!"frame {index}: element count {count} overflows" ∨
        count * wordSize < countLimit ∧
          reason = .frameLength index (count * wordSize) frame.size) := by
  unfold checkLength
  split
  · simp [*]
  · split
    · rename_i unequal beyond
      simp [unequal, beyond, Nat.not_lt.mpr beyond, eq_comm]
    · rename_i unequal within
      simp [unequal, within, Nat.lt_of_not_le within, eq_comm]

/-- Whether a count is beyond the limit may be looked at first, since frames are shorter. -/
theorem checkLength_of_lt {frame : ByteArray} {index count : Nat}
    (short : frame.size < countLimit) :
    checkLength frame index count =
      if countLimit ≤ count * wordSize then
        .error (.decodeError s!"frame {index}: element count {count} overflows")
      else if frame.size = count * wordSize then .ok ()
      else .error (.frameLength index (count * wordSize) frame.size) := by
  unfold checkLength
  by_cases beyond : countLimit ≤ count * wordSize
  · rw [if_neg (by omega), if_pos beyond, if_pos beyond]
  · rw [if_neg beyond, if_neg beyond]

/-- The column in frame number `index`, if it holds exactly `count` entries. -/
def readColumn (frame : ByteArray) (index count : Nat) : Except WireError (Array α) :=
  match checkLength frame index count with
  | .error reason => .error reason
  | .ok () => .ok (columnOf frame)

/-- The number of entries in frame number `index`. -/
def entryCount (frame : ByteArray) (index : Nat) : Except WireError Nat :=
  if frame.size % wordSize = 0 then .ok (frame.size / wordSize)
  else .error (.frameLength index (frame.size - frame.size % wordSize) frame.size)

/-- A frame whose entries can be counted holds nothing else. -/
theorem entryCount_eq_ok_iff {frame : ByteArray} {index count : Nat} :
    entryCount frame index = .ok count ↔ frame.size = count * wordSize := by
  unfold entryCount
  have positive : 0 < wordSize := by decide
  split
  · rename_i whole
    rw [Except.ok.injEq, Nat.div_eq_iff_eq_mul_left positive (Nat.dvd_of_mod_eq_zero whole)]
  · rename_i broken
    simp only [reduceCtorEq, false_iff]
    intro size
    exact broken (by rw [size, Nat.mul_mod_left])

end Column

end PhotonFerry.Wire
