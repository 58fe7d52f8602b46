import PhotonFerry.Proofs.Wire.Words
import PhotonFerry.Wire.Envelope
/-!
# Envelopes are exact

Measuring an envelope, splitting it and writing it are three functions over the
same layout. Each is explained here by the bytes that stand in the buffer, which
makes decoding and encoding inverse to each other: a buffer is decoded exactly
when it begins with an encoded message, and what is left is what came behind it.
-/

namespace PhotonFerry.Wire.Envelope

variable {buffer : ByteArray} {parts : Message}

/-- The magic bytes and the number of parts. -/
def header (count : Nat) : ByteArray :=
  ⟨magic.toArray⟩ ++ lengthBytes count

theorem size_header (count : Nat) : (header count).size = headerSize := rfl

@[simp] theorem size_body_cons (part : ByteArray) :
    (body (part :: parts)).size = wordSize + part.size + (body parts).size := by
  simp only [body, lengthBytes, ByteArray.size_append, size_packWords_singleton]

/-- An envelope is as large as its size says. -/
theorem size_body : headerSize + (body parts).size = encodedSize parts := by
  rw [encodedSize]
  congr 1
  induction parts with
  | nil => rfl
  | cons part rest step =>
    simp only [size_body_cons, List.map_cons, List.foldr_cons, step]

/-- A message can be written exactly when it keeps both limits. -/
theorem encode_eq_ok_iff {bytes : ByteArray} : encode parts = .ok bytes ↔
    parts.length ≤ partLimit ∧ encodedSize parts ≤ sizeLimit ∧
      bytes = header parts.length ++ body parts := by
  unfold encode
  split
  · simp only [reduceCtorEq, false_iff]
    omega
  · split
    · simp only [reduceCtorEq, false_iff]
      omega
    · simp only [Except.ok.injEq, header]
      constructor
      · rintro rfl
        exact ⟨by omega, by omega, rfl⟩
      · rintro ⟨-, -, rfl⟩
        rfl

/-- Frames of one size take that size each, with a length before each. -/
theorem encodedSize_of_sizes {parts : Message} {size : Nat}
    (sizes : ∀ part ∈ parts, part.size = size) :
    encodedSize parts = headerSize + parts.length * (wordSize + size) := by
  rw [encodedSize]
  congr 1
  induction parts with
  | nil => simp
  | cons part rest step =>
    rw [List.forall_mem_cons] at sizes
    rw [List.map_cons, List.foldr_cons, step sizes.2, sizes.1, List.length_cons, Nat.succ_mul,
      Nat.add_comm]

/-- A frame at the front adds its length and itself. -/
theorem encodedSize_cons (part : ByteArray) (rest : Message) :
    encodedSize (part :: rest) = wordSize + part.size + encodedSize rest := by
  simp only [encodedSize, List.map_cons, List.foldr_cons]
  omega

/-- A message with few enough parts is refused for its size only. -/
theorem encode_eq_error_iff_of_few (few : parts.length ≤ partLimit) {reason : WireError} :
    encode parts = .error reason ↔
      sizeLimit < encodedSize parts ∧ reason = .messageTooLarge (encodedSize parts) sizeLimit := by
  have notMany : ¬ partLimit < parts.length := by omega
  simp only [encode, notMany, if_false]
  split
  · simp [*, eq_comm]
  · simp [*]

/-- A length within the size limit can be read back from its word. -/
theorem toNat_ofNat_of_le_sizeLimit {length : Nat} (within : length ≤ sizeLimit) :
    (UInt32.ofNat length).toNat = length := by
  simp only [sizeLimit] at within
  rw [UInt32.toNat_ofNat']
  omega

/-- The length of the next part, the part and the ones behind it. -/
theorem standsAt_body_cons {part : ByteArray} {offset : Nat} :
    StandsAt (body (part :: parts)) buffer offset ↔
      wordAt? buffer offset = some (UInt32.ofNat part.size) ∧
      StandsAt part buffer (offset + wordSize) ∧
      StandsAt (body parts) buffer (offset + wordSize + part.size) := by
  simp only [body, StandsAt.append_iff, lengthBytes, ByteArray.size_append,
    size_packWords_singleton, wordAt?_eq_some_iff, and_assoc, Nat.add_assoc]

/-- Parts that stand in a buffer within the size limit are measured to their end. -/
theorem measureParts_of_standsAt {offset : Nat} (standing : StandsAt (body parts) buffer offset)
    (within : offset + (body parts).size ≤ sizeLimit) :
    measureParts buffer parts.length offset = .ok (some (offset + (body parts).size)) := by
  induction parts generalizing offset with
  | nil =>
    have inside : offset ≤ buffer.size := StandsAt.empty_iff.mp standing
    simp [measureParts_zero, inside, body]
  | cons part rest step =>
    obtain ⟨lengthRead, -, later⟩ := standsAt_body_cons.mp standing
    rw [size_body_cons] at within ⊢
    have length : (UInt32.ofNat part.size).toNat = part.size :=
      toNat_ofNat_of_le_sizeLimit (by omega)
    have fits : ¬ sizeLimit < offset + wordSize + part.size := by omega
    simp only [List.length_cons, measureParts_succ, lengthRead, length, fits, if_false]
    rw [step later (by omega)]
    simp only [Nat.add_assoc]

/-- What is measured to its end is a run of parts within the size limit. -/
theorem exists_standsAt_of_measureParts {count offset stop : Nat}
    (measured : measureParts buffer count offset = .ok (some stop))
    (within : offset ≤ sizeLimit) :
    ∃ parts : Message, parts.length = count ∧ StandsAt (body parts) buffer offset ∧
      stop = offset + (body parts).size ∧ stop ≤ sizeLimit := by
  induction count generalizing offset with
  | zero =>
    simp only [measureParts_zero] at measured
    split at measured
    · rename_i inside
      simp only [Except.ok.injEq, Option.some.injEq] at measured
      exact ⟨[], rfl, StandsAt.empty_iff.mpr inside, by simp [body, measured], by omega⟩
    · simp at measured
  | succ count step =>
    simp only [measureParts_succ] at measured
    split at measured
    · simp at measured
    · rename_i length lengthRead
      split at measured
      · simp at measured
      · rename_i fits
        obtain ⟨rest, counted, standing, stopped, bounded⟩ := step measured (by omega)
        have inside : offset + wordSize + length.toNat ≤ buffer.size :=
          Nat.le_trans (le_of_measureParts measured).1 (le_of_measureParts measured).2
        have partSize : (buffer.extract (offset + wordSize)
            (offset + wordSize + length.toNat)).size = length.toNat := by
          rw [ByteArray.size_extract]
          omega
        refine ⟨buffer.extract (offset + wordSize) (offset + wordSize + length.toNat) :: rest,
          by rw [List.length_cons, counted], ?_, ?_, bounded⟩
        · refine standsAt_body_cons.mpr ⟨?_, StandsAt.extract (by omega) inside, ?_⟩
          · rw [partSize, UInt32.ofNat_toNat, lengthRead]
          · rwa [partSize]
        · rw [stopped, size_body_cons, partSize]
          omega

/-- Splitting gives back the parts that stand in an envelope. -/
theorem splitParts?_of_standsAt {offset : Nat} (standing : StandsAt (body parts) buffer offset)
    (within : (body parts).size ≤ sizeLimit) :
    splitParts? buffer parts.length offset = some parts := by
  induction parts generalizing offset with
  | nil => rfl
  | cons part rest step =>
    obtain ⟨lengthRead, ⟨inside, found⟩, later⟩ := standsAt_body_cons.mp standing
    rw [size_body_cons] at within
    have length : (UInt32.ofNat part.size).toNat = part.size :=
      toNat_ofNat_of_le_sizeLimit (by omega)
    have fits : ¬ buffer.size < offset + wordSize + part.size := by omega
    simp only [List.length_cons, splitParts?, lengthRead, Option.bind_eq_bind, Option.bind_some,
      length, fits, if_false, step later (by omega), found]

/-- The header stands at the front of a buffer that begins with the magic bytes
and the number of parts. -/
theorem standsAt_header_iff {count : Nat} :
    StandsAt (header count) buffer 0 ↔
      wordAt? buffer 4 = some (UInt32.ofNat count) ∧ front buffer = magic := by
  have magicStands (enough : 4 ≤ buffer.size) :
      StandsAt ⟨magic.toArray⟩ buffer 0 ↔ front buffer = magic := by
    have size : (⟨magic.toArray⟩ : ByteArray).size = 4 := rfl
    rw [StandsAt, size, Nat.zero_add, ByteArray.ext_iff, front]
    simp only [enough, true_and, ← Array.toList_inj]
  rw [header, StandsAt.append_iff, lengthBytes, ← wordAt?_eq_some_iff]
  constructor
  · rintro ⟨magicStanding, countRead⟩
    have enough : 4 ≤ buffer.size := magicStanding.1
    exact ⟨countRead, (magicStands enough).mp magicStanding⟩
  · rintro ⟨countRead, magicFound⟩
    have inside : 4 + wordSize ≤ buffer.size := (wordAt?_eq_some_iff.mp countRead).1
    exact ⟨(magicStands (by omega)).mpr magicFound, countRead⟩

/-- An envelope is complete exactly when a message that can be written begins the
buffer; its size is that of the written message. -/
theorem measure_eq_some_iff {size : Nat} : measure buffer = .ok (some size) ↔
    ∃ parts bytes, encode parts = .ok bytes ∧ StandsAt bytes buffer 0 ∧ size = bytes.size := by
  constructor
  · intro measured
    rw [measure_eq] at measured
    split at measured
    · simp at measured
    · rename_i count countRead
      split at measured
      · simp at measured
      · rename_i magicFound
        split at measured
        · simp at measured
        · rename_i few
          obtain ⟨parts, counted, standing, stopped, bounded⟩ :=
            exists_standsAt_of_measureParts measured (by decide)
          have headerStanding : StandsAt (header parts.length) buffer 0 :=
            standsAt_header_iff.mpr ⟨by rw [counted, UInt32.ofNat_toNat, countRead], by
              simpa using magicFound⟩
          refine ⟨parts, header parts.length ++ body parts,
            encode_eq_ok_iff.mpr ⟨by omega, by rw [← size_body]; omega, rfl⟩, ?_, ?_⟩
          · exact StandsAt.append_iff.mpr ⟨headerStanding, by rwa [size_header, Nat.zero_add]⟩
          · rw [ByteArray.size_append, size_header, stopped]
  · rintro ⟨parts, bytes, written, standing, rfl⟩
    obtain ⟨few, bounded, rfl⟩ := encode_eq_ok_iff.mp written
    obtain ⟨headerStanding, bodyStanding⟩ := StandsAt.append_iff.mp standing
    obtain ⟨countRead, magicFound⟩ := standsAt_header_iff.mp headerStanding
    rw [size_header, Nat.zero_add] at bodyStanding
    rw [← size_body] at bounded
    have count : (UInt32.ofNat parts.length).toNat = parts.length :=
      toNat_ofNat_of_le_sizeLimit (Nat.le_trans few (by decide))
    have notMany : ¬ partLimit < parts.length := by omega
    rw [measure_eq, countRead]
    simp only [magicFound, ne_eq, not_true, if_false, count, notMany]
    rw [measureParts_of_standsAt bodyStanding bounded, ByteArray.size_append, size_header]

/-- Splitting a written message gives back its parts. -/
theorem split?_of_encode {bytes : ByteArray} (written : encode parts = .ok bytes) :
    split? bytes = some parts := by
  obtain ⟨few, bounded, rfl⟩ := encode_eq_ok_iff.mp written
  have whole : StandsAt (header parts.length ++ body parts)
      (header parts.length ++ body parts) 0 := by
    exact (StandsAt.front_iff.mp ByteArray.append_empty.symm).1
  obtain ⟨headerStanding, bodyStanding⟩ := StandsAt.append_iff.mp whole
  rw [size_header, Nat.zero_add] at bodyStanding
  rw [← size_body] at bounded
  have count : (UInt32.ofNat parts.length).toNat = parts.length :=
    toNat_ofNat_of_le_sizeLimit (Nat.le_trans few (by decide))
  rw [split?, (standsAt_header_iff.mp headerStanding).1]
  simp only [Option.bind_eq_bind, Option.bind_some, count]
  exact splitParts?_of_standsAt bodyStanding (by omega)

/-- What decoding does once an envelope was measured. -/
theorem decode_of_encode {bytes : ByteArray} (written : encode parts = .ok bytes)
    (standing : StandsAt bytes buffer 0) :
    decode buffer = (.ok (some parts), buffer.extract bytes.size buffer.size) := by
  have measured : measure buffer = .ok (some bytes.size) :=
    measure_eq_some_iff.mpr ⟨parts, bytes, written, standing, rfl⟩
  have front : buffer.extract 0 bytes.size = bytes := by
    simpa only [Nat.zero_add] using standing.2
  unfold decode
  split
  · simp_all
  · simp_all
  · rename_i size again
    rw [measured, Except.ok.injEq, Option.some.injEq] at again
    subst again
    simp only [front, split?_of_encode written, Option.get_some]

/-- A message comes off a buffer exactly when its encoding begins the buffer. -/
theorem decode_eq_some_iff {rest : ByteArray} : decode buffer = (.ok (some parts), rest) ↔
    ∃ bytes, encode parts = .ok bytes ∧ buffer = bytes ++ rest := by
  constructor
  · intro decoded
    have complete : ∃ size, measure buffer = .ok (some size) := by
      unfold decode at decoded
      split at decoded
      · simp at decoded
      · simp at decoded
      · exact ⟨_, by assumption⟩
    obtain ⟨size, measured⟩ := complete
    obtain ⟨others, bytes, written, standing, -⟩ := measure_eq_some_iff.mp measured
    rw [decode_of_encode written standing] at decoded
    simp only [Prod.mk.injEq, Except.ok.injEq, Option.some.injEq] at decoded
    obtain ⟨rfl, rfl⟩ := decoded
    exact ⟨bytes, written, StandsAt.front_iff.mpr ⟨standing, rfl⟩⟩
  · rintro ⟨bytes, written, whole⟩
    obtain ⟨standing, rfl⟩ := StandsAt.front_iff.mp whole
    exact decode_of_encode written standing

/-- A buffer that gives no message stays as it was. -/
theorem decode_unchanged {answer : Except WireError (Option Message)} {rest : ByteArray}
    (decoded : decode buffer = (answer, rest)) (nothing : ∀ parts, answer ≠ .ok (some parts)) :
    rest = buffer := by
  unfold decode at decoded
  split at decoded
  · simp_all
  · simp_all
  · simp only [Prod.mk.injEq] at decoded
    exact absurd decoded.1.symm (nothing _)

/-- Decoding is the exact inverse of encoding. A message comes off a buffer, with
`rest` left, exactly when the buffer is that message's encoding with `rest`
behind it. When more bytes are needed and on every error the buffer is left as it
was. What was measured lies in the buffer and holds every read and every split
that follows. -/
theorem decode_exact (buffer : ByteArray) :
    (∀ parts rest, decode buffer = (.ok (some parts), rest) ↔
      ∃ bytes, encode parts = .ok bytes ∧ buffer = bytes ++ rest) ∧
    (∀ rest, decode buffer = (.ok none, rest) → rest = buffer) ∧
    (∀ reason rest, decode buffer = (.error reason, rest) → rest = buffer) ∧
    (∀ size, measure buffer = .ok (some size) →
      headerSize ≤ size ∧ size ≤ buffer.size ∧
        ∃ parts, split? (buffer.extract 0 size) = some parts ∧
          decode buffer = (.ok (some parts), buffer.extract size buffer.size)) := by
  refine ⟨fun parts rest => decode_eq_some_iff, fun rest decoded => ?_,
    fun reason rest decoded => ?_, fun size measured => ?_⟩
  · exact decode_unchanged decoded (by simp)
  · exact decode_unchanged decoded (by simp)
  · obtain ⟨parts, bytes, written, standing, rfl⟩ := measure_eq_some_iff.mp measured
    have front : buffer.extract 0 bytes.size = bytes := by
      simpa only [Nat.zero_add] using standing.2
    refine ⟨(measure_bounds measured).1, (measure_bounds measured).2, parts, ?_, ?_⟩
    · rw [front, split?_of_encode written]
    · exact decode_of_encode written standing

end PhotonFerry.Wire.Envelope
