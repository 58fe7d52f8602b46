import PhotonFerry.Proofs.Wire.Columns
import PhotonFerry.Proofs.Wire.Envelope
import PhotonFerry.Wire.Request
/-!
# Photons arrive as they were sent

A photon message is read exactly when it is the written form of the batch that it
gives: there is no second spelling of a batch. Its envelope is larger than the
payload by a fixed number of bytes, so the payload alone decides whether a batch can
be sent, and a batch that can be sent comes back bit for bit, whatever follows it on
the stream.
-/

namespace PhotonFerry.Wire

/-- The column frames of a batch in the order in which they travel. -/
def photonFrames (batch : PhotonBatch) : List ByteArray :=
  batch.singles.map columnFrame ++ [columnFrame batch.flags]

/-- The written form of a batch is its tag, a header of two words and its columns. -/
theorem encodePhotons_eq (batch : PhotonBatch) :
    encodePhotons batch = Tag.photonData.frame ::
      packWords [batch.event, .ofNat batch.size] :: photonFrames batch := rfl

section Frames

variable {message : Message} {batch : PhotonBatch} {event count : UInt32}

/-- A header is two words and nothing more. -/
theorem photonHeader_eq_ok_iff {header : ByteArray} :
    photonHeader header = .ok (event, count) ↔ header = packWords [event, count] := by
  unfold photonHeader
  split
  · rename_i size
    rw [← wordsAt?_eq_some_iff_eq size, Except.ok.injEq, Prod.mk.injEq]
    have first : wordAt? header 0 = some _ := wordAt?_of_le (by rw [size]; decide)
    have second : wordAt? header wordSize = some _ := wordAt?_of_le (by rw [size]; decide)
    simp only [first, second, Option.getD_some, Option.some.injEq]
  · rename_i other
    simp only [reduceCtorEq, false_iff]
    rintro rfl
    exact other rfl

/-- Twelve columns of one length are the frames of the batch that they make. -/
theorem photonFrames_of_columns
    {x y z dx dy dz polx poly polz wavelength time flags : ByteArray} {count : Nat} (event : UInt32)
    (sizes : ∀ column ∈ [x, y, z, dx, dy, dz, polx, poly, polz, wavelength, time, flags],
      column.size = count * wordSize) :
    photonFrames {
      event := event
      x := columnOf x
      y := columnOf y
      z := columnOf z
      dx := columnOf dx
      dy := columnOf dy
      dz := columnOf dz
      polx := columnOf polx
      poly := columnOf poly
      polz := columnOf polz
      wavelength := columnOf wavelength
      time := columnOf time
      flags := columnOf flags } =
      [x, y, z, dx, dy, dz, polx, poly, polz, wavelength, time, flags] := by
  simp only [List.forall_mem_cons] at sizes
  obtain ⟨xSize, ySize, zSize, dxSize, dySize, dzSize, polxSize, polySize, polzSize,
    wavelengthSize, timeSize, flagsSize, -⟩ := sizes
  simp only [photonFrames, PhotonBatch.singles, List.map_cons, List.map_nil, List.cons_append,
    List.nil_append]
  rw [columnFrame_columnOf xSize, columnFrame_columnOf ySize, columnFrame_columnOf zSize,
    columnFrame_columnOf dxSize, columnFrame_columnOf dySize, columnFrame_columnOf dzSize,
    columnFrame_columnOf polxSize, columnFrame_columnOf polySize, columnFrame_columnOf polzSize,
    columnFrame_columnOf wavelengthSize, columnFrame_columnOf timeSize,
    columnFrame_columnOf flagsSize]

/-- Each column of an aligned batch fills a frame of the same size. -/
theorem size_of_mem_photonFrames (aligned : batch.Aligned) :
    ∀ column ∈ photonFrames batch, column.size = batch.size * wordSize := by
  intro column member
  rcases List.mem_append.mp member with single | last
  · obtain ⟨values, among, rfl⟩ := List.mem_map.mp single
    rw [size_columnFrame, aligned.1 values among]
  · rw [List.mem_singleton.mp last, size_columnFrame, aligned.2]

/-- What is read as photons is the written form of the batch that it gives, whose columns are of
one length, which the header states. -/
theorem written_of_decodePhotons (decoded : decodePhotons message = .ok batch) :
    batch.Aligned ∧ batch.size < twoTo 32 ∧ message = encodePhotons batch := by
  unfold decodePhotons at decoded
  split at decoded
  · simp at decoded
  · rename_i tagged
    obtain ⟨rest, begins⟩ := expectTag_eq_ok_iff.mp tagged
    split at decoded
    · rename_i tag header x y z dx dy dz polx poly polz wavelength time flags
      split at decoded
      · simp at decoded
      · rename_i event count headed
        split at decoded
        · simp at decoded
        · rename_i checked
          have sizes := checkLengths_eq_ok_iff.mp checked
          have frames := photonFrames_of_columns event sizes
          simp only [Except.ok.injEq] at decoded
          subst decoded
          have size : (columnOf x : Array Single).size = count.toNat :=
            size_columnOf_of_size (sizes x List.mem_cons_self)
          refine ⟨?_, ?_, ?_⟩
          · simp only [List.forall_mem_cons] at sizes
            simp [PhotonBatch.Aligned, PhotonBatch.singles, PhotonBatch.size, size_columnOf, sizes]
          · rw [PhotonBatch.size, size]
            exact count.toNat_lt
          · rw [encodePhotons_eq, frames, PhotonBatch.size, size, UInt32.ofNat_toNat,
              ← photonHeader_eq_ok_iff.mp headed, (List.cons.inj begins).1]
    · simp at decoded

/-- The written form of a batch is read as the batch, if its size fits the word that states it. -/
theorem decodePhotons_encodePhotons (aligned : batch.Aligned) (bounded : batch.size < twoTo 32) :
    decodePhotons (encodePhotons batch) = .ok batch := by
  have tagged : expectTag (encodePhotons batch) .photonData = .ok () :=
    expectTag_eq_ok_iff.mpr ⟨_, rfl⟩
  have headed : photonHeader (packWords [batch.event, .ofNat batch.size]) =
      .ok (batch.event, .ofNat batch.size) := photonHeader_eq_ok_iff.mpr rfl
  have stated : (UInt32.ofNat batch.size).toNat = batch.size := by
    rw [UInt32.toNat_ofNat']
    exact Nat.mod_eq_of_lt bounded
  have checked : checkLengths batch.size 2 (photonFrames batch) = .ok () :=
    checkLengths_eq_ok_iff.mpr (size_of_mem_photonFrames aligned)
  have spelled : encodePhotons batch = [Tag.photonData.frame,
      packWords [batch.event, .ofNat batch.size], columnFrame batch.x, columnFrame batch.y,
      columnFrame batch.z, columnFrame batch.dx, columnFrame batch.dy, columnFrame batch.dz,
      columnFrame batch.polx, columnFrame batch.poly, columnFrame batch.polz,
      columnFrame batch.wavelength, columnFrame batch.time, columnFrame batch.flags] := rfl
  simp only [photonFrames, PhotonBatch.singles, List.map_cons, List.map_nil, List.cons_append,
    List.nil_append] at checked
  rw [spelled] at tagged ⊢
  simp only [decodePhotons, tagged, headed, stated, checked, columnOf_columnFrame]

end Frames

section Stream

variable {batch : PhotonBatch}

/-- The envelope of a photon message exceeds its payload by a fixed number of bytes:
the magic and the count, the lengths of fourteen frames, and the tag. -/
theorem encodedSize_encodePhotons (aligned : batch.Aligned) :
    Envelope.encodedSize (encodePhotons batch) = 74 + batch.wireSize := by
  have columns : Envelope.encodedSize (photonFrames batch) = _ :=
    Envelope.encodedSize_of_sizes (size_of_mem_photonFrames aligned)
  have twelve : (photonFrames batch).length = 12 := rfl
  have tag : Tag.photonData.frame.size = 10 := by decide
  have header : (packWords [batch.event, .ofNat batch.size]).size = 8 := rfl
  rw [encodePhotons_eq, Envelope.encodedSize_cons, Envelope.encodedSize_cons, columns, twelve, tag,
    header, PhotonBatch.wireSize]
  simp only [Envelope.headerSize, wordSize]
  omega

/-- A batch that can be sent has a size that fits its word. -/
theorem size_lt_of_wireSize (within : 74 + batch.wireSize ≤ Envelope.sizeLimit) :
    batch.size < twoTo 32 := by
  have word : twoTo 32 = 4294967296 := by decide
  simp only [PhotonBatch.wireSize, Envelope.sizeLimit] at within
  omega

/-- A batch with columns of one length can be sent exactly when its payload leaves room
for the rest of the envelope; if it does not, it is too large and nothing else is wrong
with it. What is sent comes back bit for bit, from any stream that begins with it, and
what follows is left. Conversely a message that is read as photons is the written form
of the batch that it gives, whose columns are of one length. -/
theorem photons_survive_envelope (aligned : batch.Aligned) :
    (∀ reason, Envelope.encode (encodePhotons batch) = .error reason ↔
      Envelope.sizeLimit < 74 + batch.wireSize ∧
        reason = .messageTooLarge (74 + batch.wireSize) Envelope.sizeLimit) ∧
    (∀ bytes, Envelope.encode (encodePhotons batch) = .ok bytes → ∀ further, ∃ message,
      Envelope.decode (bytes ++ further) = (.ok (some message), further) ∧
        decodePhotons message = .ok batch) ∧
    ∀ message read, decodePhotons message = .ok read →
      message = encodePhotons read ∧ read.Aligned := by
  have fourteen : (encodePhotons batch).length = 14 := rfl
  have few : (encodePhotons batch).length ≤ Envelope.partLimit := by rw [fourteen]; decide
  have size : Envelope.encodedSize (encodePhotons batch) = 74 + batch.wireSize :=
    encodedSize_encodePhotons aligned
  refine ⟨fun reason => ?refused, fun bytes written further => ?survives,
    fun message read decoded => ?written⟩
  case refused => rw [Envelope.encode_eq_error_iff_of_few few, size]
  case survives =>
    have within : 74 + batch.wireSize ≤ Envelope.sizeLimit :=
      size ▸ (Envelope.encode_eq_ok_iff.mp written).2.1
    refine ⟨encodePhotons batch, Envelope.decode_eq_some_iff.mpr ⟨bytes, written, rfl⟩, ?_⟩
    exact decodePhotons_encodePhotons aligned (size_lt_of_wireSize within)
  case written =>
    obtain ⟨columns, -, rfl⟩ := written_of_decodePhotons decoded
    exact ⟨rfl, columns⟩

/-- A photon with a NaN that carries a payload and with a negative zero. -/
theorem photons_survive_envelope_nan :
    let batch : PhotonBatch := (PhotonBatch.empty.setEvent 4294967295).push {
      position := ⟨⟨0x7fc00001⟩, ⟨0x80000000⟩, ⟨0⟩⟩
      direction := ⟨⟨0⟩, ⟨0⟩, ⟨0xff800000⟩⟩
      polarization := ⟨⟨1⟩, ⟨0⟩, ⟨0⟩⟩
      wavelength := ⟨0xffffffff⟩
      time := ⟨0⟩
      flags := 4294967295 }
    batch.Aligned ∧ ∃ bytes, Envelope.encode (encodePhotons batch) = .ok bytes ∧
      ∀ further, ∃ message, Envelope.decode (bytes ++ further) = (.ok (some message), further) ∧
        decodePhotons message = .ok batch := by
  intro batch
  have aligned : batch.Aligned := by decide
  obtain ⟨refused, survives, -⟩ := photons_survive_envelope aligned
  refine ⟨aligned, ?_⟩
  cases written : Envelope.encode (encodePhotons batch) with
  | error reason =>
    have within : 74 + batch.wireSize ≤ Envelope.sizeLimit := by decide
    exact absurd ((refused reason).mp written).1 (Nat.not_lt.mpr within)
  | ok bytes => exact ⟨bytes, rfl, survives bytes written⟩

end Stream

end PhotonFerry.Wire
