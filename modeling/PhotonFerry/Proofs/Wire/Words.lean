import PhotonFerry.Wire.Column
/-!
# Words in buffers

The four bytes of a word and the word of four bytes are inverse to each other,
so that reading a word at an offset succeeds exactly when its bytes stand there.
`StandsAt` is the view of a buffer that the reading of longer structures is
explained by: bytes that stand in a buffer can be taken apart and put together
where they meet.
-/

namespace PhotonFerry.Wire

/-- The number that a word's bytes write, lowest first. -/
theorem toNat_wordOf (first second third fourth : UInt8) :
    (wordOf first second third fourth).toNat =
      first.toNat + 256 * second.toNat + 65536 * third.toNat + 16777216 * fourth.toNat := by
  have firstBound := first.toNat_lt
  have secondBound := second.toNat_lt
  have thirdBound := third.toNat_lt
  have fourthBound := fourth.toNat_lt
  -- The bytes do not overlap, so each disjunction is a sum.
  have low : first.toNat ||| second.toNat <<< 8 = first.toNat + 256 * second.toNat := by
    rw [Nat.or_comm, ← Nat.shiftLeft_add_eq_or_of_lt (by omega), Nat.shiftLeft_eq]
    omega
  have middle : (first.toNat + 256 * second.toNat) ||| third.toNat <<< 16 =
      first.toNat + 256 * second.toNat + 65536 * third.toNat := by
    rw [Nat.or_comm, ← Nat.shiftLeft_add_eq_or_of_lt (by omega), Nat.shiftLeft_eq]
    omega
  have high : (first.toNat + 256 * second.toNat + 65536 * third.toNat) ||| fourth.toNat <<< 24 =
      first.toNat + 256 * second.toNat + 65536 * third.toNat + 16777216 * fourth.toNat := by
    rw [Nat.or_comm, ← Nat.shiftLeft_add_eq_or_of_lt (by omega), Nat.shiftLeft_eq]
    omega
  have secondFits : second.toNat <<< 8 % 2 ^ 32 = second.toNat <<< 8 := by
    rw [Nat.shiftLeft_eq]
    omega
  have thirdFits : third.toNat <<< 16 % 2 ^ 32 = third.toNat <<< 16 := by
    rw [Nat.shiftLeft_eq]
    omega
  have fourthFits : fourth.toNat <<< 24 % 2 ^ 32 = fourth.toNat <<< 24 := by
    rw [Nat.shiftLeft_eq]
    omega
  simp only [wordOf, UInt32.toNat_or, UInt32.toNat_shiftLeft, UInt8.toNat_toUInt32,
    UInt32.reduceToNat, Nat.reduceMod]
  rw [secondFits, thirdFits, fourthFits, low, middle, high]

/-- Four bytes make a word exactly when they are its bytes. -/
theorem wordOf_eq_iff {first second third fourth : UInt8} {word : UInt32} :
    wordOf first second third fourth = word ↔ [first, second, third, fourth] = wordBytes word := by
  have firstBound := first.toNat_lt
  have secondBound := second.toNat_lt
  have thirdBound := third.toNat_lt
  have fourthBound := fourth.toNat_lt
  have wordBound := word.toNat_lt
  rw [← UInt32.toNat_inj, toNat_wordOf]
  simp only [wordBytes, List.cons.injEq, ← UInt8.toNat_inj, UInt32.toNat_toUInt8,
    UInt32.toNat_shiftRight, Nat.shiftRight_eq_div_pow, UInt32.reduceToNat, Nat.reduceMod,
    Nat.reducePow, and_true]
  omega

@[simp] theorem size_packWords_singleton (word : UInt32) :
    (packWords [word]).size = wordSize := rfl

/-- Some bytes stand in a buffer from an offset on. -/
def StandsAt (bytes buffer : ByteArray) (offset : Nat) : Prop :=
  offset + bytes.size ≤ buffer.size ∧ buffer.extract offset (offset + bytes.size) = bytes

namespace StandsAt

variable {bytes first second buffer : ByteArray} {offset : Nat}

/-- No bytes stand everywhere in a buffer, its end included. -/
theorem empty_iff : StandsAt .empty buffer offset ↔ offset ≤ buffer.size := by
  simp [StandsAt]

/-- Bytes stand in a buffer when their two halves do, one right behind the other. -/
theorem append_iff : StandsAt (first ++ second) buffer offset ↔
    StandsAt first buffer offset ∧ StandsAt second buffer (offset + first.size) := by
  constructor
  · rintro ⟨inside, found⟩
    rw [ByteArray.size_append] at inside found
    rw [ByteArray.extract_eq_extract_append_extract (offset + first.size) (by omega) (by omega)]
      at found
    have firstSize : (buffer.extract offset (offset + first.size)).size = first.size := by
      rw [ByteArray.size_extract]
      omega
    obtain ⟨firstFound, secondFound⟩ :=
      (ByteArray.append_eq_append_iff_of_size_eq_left firstSize).mp found
    exact ⟨⟨by omega, firstFound⟩, by omega, by rwa [Nat.add_assoc]⟩
  · rintro ⟨⟨-, firstFound⟩, inside, secondFound⟩
    refine ⟨by rw [ByteArray.size_append]; omega, ?_⟩
    rw [ByteArray.size_append,
      ByteArray.extract_eq_extract_append_extract (offset + first.size) (by omega) (by omega),
      firstFound, ← Nat.add_assoc, secondFound]

/-- A buffer is split by the bytes that stand at its front. -/
theorem front_iff {rest : ByteArray} :
    buffer = bytes ++ rest ↔
      StandsAt bytes buffer 0 ∧ rest = buffer.extract bytes.size buffer.size := by
  constructor
  · rintro rfl
    refine ⟨⟨by rw [ByteArray.size_append]; omega, ?_⟩, ?_⟩
    · exact ByteArray.extract_append_eq_left (Nat.zero_add _)
    · exact (ByteArray.extract_append_eq_right rfl ByteArray.size_append).symm
  · rintro ⟨⟨inside, found⟩, rfl⟩
    rw [Nat.zero_add] at inside found
    calc buffer
      _ = buffer.extract 0 buffer.size := ByteArray.extract_zero_size.symm
      _ = buffer.extract 0 bytes.size ++ buffer.extract bytes.size buffer.size :=
        ByteArray.extract_eq_extract_append_extract bytes.size (Nat.zero_le _) inside
      _ = bytes ++ buffer.extract bytes.size buffer.size := by rw [found]

/-- What a buffer holds from one offset to another stands there. -/
theorem extract {stop : Nat} (ordered : offset ≤ stop) (inside : stop ≤ buffer.size) :
    StandsAt (buffer.extract offset stop) buffer offset := by
  have size : offset + (buffer.extract offset stop).size = stop := by
    rw [ByteArray.size_extract]
    omega
  exact ⟨by omega, by rw [size]⟩

end StandsAt

/-- The word of four bytes inside a buffer. -/
theorem wordAt?_of_le {buffer : ByteArray} {offset : Nat} (inside : offset + 4 ≤ buffer.size) :
    wordAt? buffer offset =
      some (wordOf buffer[offset] buffer[offset + 1] buffer[offset + 2] buffer[offset + 3]) := by
  simp only [wordAt?]
  rw [getElem?_pos buffer offset (by omega), getElem?_pos buffer (offset + 1) (by omega),
    getElem?_pos buffer (offset + 2) (by omega), getElem?_pos buffer (offset + 3) (by omega)]
  rfl

/-- A word is read at an offset exactly when its bytes stand there. -/
theorem wordAt?_eq_some_iff {buffer : ByteArray} {offset : Nat} {word : UInt32} :
    wordAt? buffer offset = some word ↔ StandsAt (packWords [word]) buffer offset := by
  by_cases inside : offset + 4 ≤ buffer.size
  · have packed : packWords [word] = (wordBytes word).toByteArray := by
      ext1
      simp [packWords]
    rw [wordAt?_of_le inside, Option.some.injEq, wordOf_eq_iff, StandsAt,
      size_packWords_singleton, packed, wordSize, ByteArray.extract_add_four inside,
      List.toByteArray_inj]
    simp only [inside, true_and]
  · have missing : buffer[offset + 3]? = none := getElem?_neg buffer (offset + 3) (by omega)
    constructor
    · intro read
      simp [wordAt?, missing] at read
    · rintro ⟨present, -⟩
      exact absurd present inside

end PhotonFerry.Wire
