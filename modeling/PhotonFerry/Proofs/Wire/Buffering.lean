import Mathlib.Data.List.Chain
import Mathlib.Data.List.Induction
import PhotonFerry.Proofs.Wire.Stream
/-!
# Buffering is bounded

The lengths in an envelope are the peer's to choose, yet they make nobody hold more than
an envelope may have. Each length is compared with the size limit as soon as it has come,
so that more bytes are asked for only while less than the limit and one further length
are held. The running offset goes beyond the limit by one length at most, and nothing is
added to it after that.
-/

namespace PhotonFerry.Wire

/-- A word is missing only where a buffer ends. -/
theorem lt_of_wordAt?_eq_none {buffer : ByteArray} {offset : Nat}
    (missing : wordAt? buffer offset = none) : buffer.size < offset + wordSize := by
  refine Nat.lt_of_not_le fun inside => ?_
  simp [wordAt?_of_le inside] at missing

namespace Envelope

variable {buffer rest : ByteArray}

section Asking

/-- Parts that begin within the size limit ask for more bytes only close to it. -/
theorem lt_of_measureParts_eq_none {count offset : Nat} (within : offset ≤ sizeLimit)
    (asks : measureParts buffer count offset = .ok none) :
    buffer.size < sizeLimit + wordSize := by
  induction count generalizing offset with
  | zero =>
    simp only [measureParts_zero] at asks
    split at asks
    · simp at asks
    · omega
  | succ count step =>
    simp only [measureParts_succ] at asks
    split at asks
    · rename_i missing
      have ends : buffer.size < offset + wordSize := lt_of_wordAt?_eq_none missing
      omega
    · split at asks
      · simp at asks
      · rename_i fits
        exact step (Nat.le_of_not_lt fits) asks

/-- Decoding asks for more bytes exactly when measuring does, and leaves the buffer. -/
theorem decode_eq_none_iff : decode buffer = (.ok none, rest) ↔
    measure buffer = .ok none ∧ rest = buffer := by
  unfold decode
  split <;> rename_i measured
  · simp [measured]
  · rw [measured]
    simp [eq_comm]
  · simp only [Prod.mk.injEq, Except.ok.injEq, reduceCtorEq, false_and, measured]

/-- A buffer that asks for more bytes ends before one length behind the size limit. -/
theorem lt_of_decode_eq_none (asks : decode buffer = (.ok none, rest)) :
    buffer.size < sizeLimit + wordSize := by
  obtain ⟨incomplete, -⟩ := decode_eq_none_iff.mp asks
  rw [measure_eq] at incomplete
  split at incomplete
  · rename_i missing
    have ends : buffer.size < 4 + wordSize := lt_of_wordAt?_eq_none missing
    exact Nat.lt_of_lt_of_le ends (by decide)
  · split at incomplete
    · simp at incomplete
    · split at incomplete
      · simp at incomplete
      · exact lt_of_measureParts_eq_none (by decide) incomplete

/-- Parts that lead to the end of the size limit ask for the next length while it is not
whole. -/
theorem measureParts_of_part {part : ByteArray} {offset : Nat}
    (standing : StandsAt (body [part]) buffer offset)
    (reached : offset + wordSize + part.size = sizeLimit)
    (short : buffer.size < sizeLimit + wordSize) : measureParts buffer 2 offset = .ok none := by
  obtain ⟨lengthRead, -, -⟩ := standsAt_body_cons.mp standing
  have length : (UInt32.ofNat part.size).toNat = part.size :=
    toNat_ofNat_of_le_sizeLimit (by omega)
  have missing : wordAt? buffer sizeLimit = none := by
    refine Option.eq_none_iff_forall_ne_some.mpr fun word read => ?_
    have inside : sizeLimit + wordSize ≤ buffer.size := (wordAt?_eq_some_iff.mp read).1
    omega
  simp only [measureParts_succ, lengthRead, length, reached, Nat.lt_irrefl, if_false, missing]

/-- The bound on what asks for more bytes is reached: a first part may fill the size limit
with a second one announced. -/
theorem exists_decode_eq_none :
    ∃ buffer, decode buffer = (.ok none, buffer) ∧ buffer.size + 1 = sizeLimit + wordSize := by
  obtain ⟨part, partSize⟩ : ∃ part : ByteArray, part.size = sizeLimit - headerSize - wordSize :=
    ⟨⟨Array.replicate (sizeLimit - headerSize - wordSize) 0⟩, Array.size_replicate⟩
  have reached : headerSize + wordSize + part.size = sizeLimit := by
    rw [partSize]
    decide
  obtain ⟨tail, tailSize⟩ : ∃ tail : ByteArray, tail.size + 1 = wordSize := ⟨⟨#[0, 0, 0]⟩, rfl⟩
  have whole : (header 2 ++ body [part] ++ tail).size + 1 = sizeLimit + wordSize := by
    rw [ByteArray.size_append, ByteArray.size_append, size_header, size_body_cons]
    simp only [body, ByteArray.size_empty]
    omega
  have front := (StandsAt.front_iff.mp (rfl : header 2 ++ body [part] ++ tail = _)).1
  obtain ⟨headerStanding, bodyStanding⟩ := StandsAt.append_iff.mp front
  obtain ⟨countRead, magicFound⟩ := standsAt_header_iff.mp headerStanding
  rw [size_header, Nat.zero_add] at bodyStanding
  refine ⟨header 2 ++ body [part] ++ tail, decode_eq_none_iff.mpr ⟨?_, rfl⟩, whole⟩
  rw [measure_eq, countRead]
  simp only [magicFound, ne_eq, not_true, if_false]
  exact measureParts_of_part bodyStanding reached (by omega)

end Asking

section Reader

/-- The chunks that a reader has appended, the messages that it has taken and the bytes
that it holds. It takes a message off whatever it holds, appends a chunk only when more
bytes are needed, and does nothing after an error. -/
inductive Buffered : List ByteArray → List Message → ByteArray → Prop where
  | opened : Buffered [] [] .empty
  | takes {chunks messages held message rest} (before : Buffered chunks messages held)
      (decoded : decode held = (.ok (some message), rest)) :
      Buffered chunks (messages ++ [message]) rest
  | appends {chunks messages held} (chunk : ByteArray) (before : Buffered chunks messages held)
      (asks : decode held = (.ok none, held)) :
      Buffered (chunks ++ [chunk]) messages (held ++ chunk)

variable {chunks : List ByteArray} {messages : List Message} {held : ByteArray}

/-- A reader holds less than a chunk more than what asks for more bytes. -/
theorem Buffered.size_lt {bound : Nat} (buffered : Buffered chunks messages held)
    (short : ∀ chunk ∈ chunks, chunk.size ≤ bound) :
    held.size < sizeLimit + wordSize + bound := by
  induction buffered with
  | opened => exact Nat.lt_of_lt_of_le (by decide : 0 < sizeLimit + wordSize) (Nat.le_add_right ..)
  | takes before decoded step => exact Nat.lt_trans (size_decode_lt decoded) (step short)
  | @appends chunks messages held chunk before asks step =>
    have fewer : held.size < sizeLimit + wordSize := lt_of_decode_eq_none asks
    have small : chunk.size ≤ bound := short chunk (by simp)
    rw [ByteArray.size_append]
    omega

/-- A reader drains what it holds. -/
theorem Buffered.drained (buffered : Buffered chunks messages held) :
    Buffered chunks (messages ++ (drain held).messages) (drain held).rest := by
  -- The induction follows the draining, which adds to the messages that were taken before.
  have run (held : ByteArray) : ∀ messages, Buffered chunks messages held →
      Buffered chunks (messages ++ (drain held).messages) (drain held).rest := by
    fun_induction drain held with
    | case1 held message rest decoded later step =>
      intro messages buffered
      have next := step _ (buffered.takes decoded)
      rwa [List.append_assoc, List.singleton_append] at next
    | case2 held rest decoded =>
      intro messages buffered
      obtain rfl : rest = held := decode_unchanged decoded (by simp)
      rwa [List.append_nil]
    | case3 held reason rest decoded =>
      intro messages buffered
      obtain rfl : rest = held := decode_unchanged decoded (by simp)
      rwa [List.append_nil]
  exact run held messages buffered

/-- What is left without an error asks for more bytes. -/
theorem decode_rest_of_drain (faultless : (drain buffer).fault = none) :
    decode (drain buffer).rest = (.ok none, (drain buffer).rest) := by
  fun_induction drain buffer with
  | case1 buffer message rest decoded later step => exact step faultless
  | case2 buffer rest decoded =>
    obtain rfl : rest = buffer := decode_unchanged decoded (by simp)
    exact decoded
  | case3 => simp at faultless

/-- A receiver has what is left of all its bytes, which asks for more if nothing is wrong. -/
theorem decode_rest_of_receive (faultless : (receive chunks).fault = none) :
    decode (receive chunks).rest = (.ok none, (receive chunks).rest) := by
  rw [receive_eq_drain] at faultless ⊢
  exact decode_rest_of_drain faultless

theorem receive_concat (chunks : List ByteArray) (chunk : ByteArray) :
    receive (chunks ++ [chunk]) = (receive chunks).feed chunk := by
  rw [receive, List.foldl_append]
  rfl

/-- An error does not go away with more chunks. -/
theorem fault_of_receive_concat {chunk : ByteArray}
    (faultless : (receive (chunks ++ [chunk])).fault = none) : (receive chunks).fault = none := by
  rw [receive_eq_drain] at faultless ⊢
  rw [joined_append] at faultless
  cases stopped : (drain (joined chunks)).fault with
  | none => rfl
  | some reason =>
    rw [drain_append_of_fault stopped] at faultless
    simp [stopped] at faultless

/-- One more chunk takes a reader that has what the receiver has to the same again. -/
theorem buffered_concat (before : Buffered chunks (receive chunks).messages (receive chunks).rest)
    (faultless : (receive chunks).fault = none) (chunk : ByteArray) :
    Buffered (chunks ++ [chunk]) (receive (chunks ++ [chunk])).messages
      (receive (chunks ++ [chunk])).rest := by
  rw [receive_concat]
  exact (before.appends chunk (decode_rest_of_receive faultless)).drained

/-- A reader that no error stops comes to what the receiver has. -/
theorem buffered_receive (faultless : (receive chunks).fault = none) :
    Buffered chunks (receive chunks).messages (receive chunks).rest := by
  induction chunks using List.reverseRecOn with
  | nil => exact .opened
  | append_singleton chunks chunk step =>
    have before : (receive chunks).fault = none := fault_of_receive_concat faultless
    exact buffered_concat (step before) before chunk

end Reader

section Offsets

/-- One part takes the running offset less than the largest part beyond the size limit. -/
theorem next_lt {offset : Nat} (within : offset ≤ sizeLimit) (length : UInt32) :
    offset + wordSize + length.toNat < sizeLimit + twoTo 32 + wordSize := by
  have word : length.toNat < twoTo 32 := length.toNat_lt
  omega

/-- The running offset stays within the size limit and one part. -/
theorem lt_of_mem_surveyParts {count offset value : Nat} (within : offset ≤ sizeLimit)
    (noted : value ∈ (surveyParts buffer count offset).offsets) :
    value < sizeLimit + twoTo 32 + wordSize := by
  have begins {offset : Nat} (within : offset ≤ sizeLimit) :
      offset < sizeLimit + twoTo 32 + wordSize := by
    simp only [wordSize]
    omega
  fun_induction surveyParts buffer count offset with
  | case1 offset =>
    obtain rfl : value = offset := by simpa using noted
    exact begins within
  | case2 count offset missing =>
    obtain rfl : value = offset := by simpa using noted
    exact begins within
  | case3 count offset length found next exceeded =>
    obtain rfl | rfl : value = offset ∨ value = next := by simpa using noted
    · exact begins within
    · exact next_lt within length
  | case4 count offset length found next fits later step =>
    obtain rfl | further := List.mem_cons.mp noted
    · exact begins within
    · exact step (Nat.le_of_not_lt fits) further

theorem lt_of_mem_survey {value : Nat} (noted : value ∈ (survey buffer).offsets) :
    value < sizeLimit + twoTo 32 + wordSize := by
  unfold survey at noted
  split at noted
  · simp at noted
  · split at noted
    · simp at noted
    · split at noted
      · simp at noted
      · exact lt_of_mem_surveyParts (by decide) noted

/-- A survey has noted every value of the running offset, from the first one on: each is behind
the part that begins at the one before, and the answer is about the last. -/
structure Survey.Notes (survey : Survey) (buffer : ByteArray) (first : Nat) : Prop where
  begins : ∀ offset ∈ survey.offsets.head?, offset = first
  steps : survey.offsets.IsChain fun offset next =>
    ∃ length, wordAt? buffer offset = some length ∧ next = offset + wordSize + length.toNat
  stop : ∀ size, survey.answer = .ok (some size) → survey.offsets.getLast? = some size
  tooLarge : ∀ size limit, survey.answer = .error (.messageTooLarge size limit) →
    survey.offsets.getLast? = some size

theorem notes_surveyParts (count offset : Nat) :
    (surveyParts buffer count offset).Notes buffer offset := by
  fun_induction surveyParts buffer count offset with
  | case1 offset =>
    refine ⟨by simp, .singleton _, fun size whole => ?_, nofun⟩
    simp only [Except.ok.injEq, Option.ite_none_right_eq_some, Option.some.injEq] at whole
    simp [whole.2]
  | case2 count offset missing => exact ⟨by simp, .singleton _, nofun, nofun⟩
  | case3 count offset length found next exceeded =>
    refine ⟨by simp, List.isChain_pair.mpr ⟨length, found, rfl⟩, nofun,
      fun size limit refused => ?_⟩
    simp only [Except.error.injEq, WireError.messageTooLarge.injEq] at refused
    simp [refused.1]
  | case4 count offset length found next fits later step =>
    refine ⟨by simp, step.steps.cons fun following head => ?_, fun size whole => ?_,
      fun size limit refused => ?_⟩
    · exact ⟨length, found, step.begins following head⟩
    · rw [List.getLast?_cons, step.stop size whole, Option.getD_some]
    · rw [List.getLast?_cons, step.tooLarge size limit refused, Option.getD_some]

theorem notes_survey (buffer : ByteArray) : (survey buffer).Notes buffer headerSize := by
  unfold survey
  split
  · exact ⟨nofun, .nil, nofun, nofun⟩
  · split
    · exact ⟨nofun, .nil, nofun, nofun⟩
    · split
      · exact ⟨nofun, .nil, nofun, nofun⟩
      · exact notes_surveyParts ..

end Offsets

/-- What a peer sends cannot make a reader hold much more than an envelope. More bytes are
asked for only while less than the size limit and one further length are held, and up to
there they are; hence a reader never holds more than that and a chunk. Nothing but an error
keeps it from what a receiver has, and from the next chunk. The running offset goes beyond
the size limit by less than the largest part and its length, and no sum that is formed from
it leaves a 64-bit word; its values go from part to part behind the header, and the size that
is found, or found too large, is the last of them. -/
theorem buffering_bounded :
    (∀ buffer rest, decode buffer = (.ok none, rest) → buffer.size < sizeLimit + wordSize) ∧
    (∃ buffer, decode buffer = (.ok none, buffer) ∧ buffer.size + 1 = sizeLimit + wordSize) ∧
    (∀ bound chunks messages held, (∀ chunk ∈ chunks, chunk.size ≤ bound) →
      Buffered chunks messages held → held.size < sizeLimit + wordSize + bound) ∧
    (∀ chunks chunk, (receive chunks).fault = none →
      Buffered (chunks ++ [chunk]) (receive chunks).messages ((receive chunks).rest ++ chunk) ∧
      Buffered (chunks ++ [chunk]) (receive (chunks ++ [chunk])).messages
        (receive (chunks ++ [chunk])).rest) ∧
    ∀ buffer, (survey buffer).answer = measure buffer ∧
      (survey buffer).Notes buffer headerSize ∧
      ∀ offset ∈ (survey buffer).offsets, offset < sizeLimit + twoTo 32 + wordSize ∧
        ∀ length : UInt32, Word.isUnsigned 64 (offset + wordSize + length.toNat) := by
  refine ⟨fun buffer rest asks => lt_of_decode_eq_none asks, exists_decode_eq_none,
    fun bound chunks messages held short buffered => buffered.size_lt short,
    fun chunks chunk faultless => ?reader, fun buffer => ⟨rfl, notes_survey buffer, ?offsets⟩⟩
  case reader =>
    have before := buffered_receive faultless
    exact ⟨before.appends chunk (decode_rest_of_receive faultless),
      buffered_concat before faultless chunk⟩
  case offsets =>
    intro offset noted
    have below : offset < sizeLimit + twoTo 32 + wordSize := lt_of_mem_survey noted
    refine ⟨below, fun length => decide_eq_true ?_⟩
    have word : length.toNat < twoTo 32 := length.toNat_lt
    have room : sizeLimit + twoTo 32 + wordSize + wordSize + twoTo 32 ≤ twoTo 64 := by decide
    omega

end Envelope

end PhotonFerry.Wire
