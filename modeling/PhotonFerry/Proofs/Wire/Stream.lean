import PhotonFerry.Proofs.Wire.Envelope
/-!
# Streams may be cut anywhere

A byte stream arrives in chunks of any lengths. The receiver appends each chunk to
the bytes that were left and takes off what is complete. A message or an error
found in a buffer is found in every longer buffer, so draining in between changes
nothing: what the receiver has after any chunks is what draining all their bytes
at once gives.
-/

namespace PhotonFerry.Wire

/-- Bytes that stand in a buffer stay there when more are appended. -/
theorem StandsAt.append_right {bytes buffer : ByteArray} {offset : Nat}
    (standing : StandsAt bytes buffer offset) (more : ByteArray) :
    StandsAt bytes (buffer ++ more) offset := by
  obtain ⟨inside, found⟩ := standing
  refine ⟨by rw [ByteArray.size_append]; omega, ?_⟩
  have nothing : offset + bytes.size - buffer.size = 0 := by omega
  rw [ByteArray.extract_append, found, nothing, ByteArray.extract_eq_empty_iff.mpr (by omega),
    ByteArray.append_empty]

/-- A word in a buffer stays there when more bytes are appended. -/
theorem wordAt?_append {buffer : ByteArray} {offset : Nat} {word : UInt32}
    (found : wordAt? buffer offset = some word) (more : ByteArray) :
    wordAt? (buffer ++ more) offset = some word :=
  wordAt?_eq_some_iff.mpr ((wordAt?_eq_some_iff.mp found).append_right more)

namespace Envelope

variable {buffer rest : ByteArray} {message : Message} {reason : WireError}

/-- Parts that break the size limit break it in every longer buffer. -/
theorem measureParts_append {count offset : Nat}
    (refused : measureParts buffer count offset = .error reason) (more : ByteArray) :
    measureParts (buffer ++ more) count offset = .error reason := by
  induction count generalizing offset with
  | zero => simp [measureParts_zero] at refused
  | succ count step =>
    simp only [measureParts_succ] at refused ⊢
    split at refused
    · simp at refused
    · rename_i length found
      simp only [wordAt?_append found more]
      split at refused
      · rename_i exceeded
        simpa only [exceeded, if_true] using refused
      · rename_i fits
        simpa only [fits, if_false] using step refused

/-- The first bytes of a buffer that holds them all stay in front. -/
theorem front_append (enough : 4 ≤ buffer.size) (more : ByteArray) :
    front (buffer ++ more) = front buffer := by
  have standing := (StandsAt.extract (Nat.zero_le 4) enough).append_right more
  have size : 0 + (buffer.extract 0 4).size = 4 := by
    rw [ByteArray.size_extract]
    omega
  rw [front, front, ← standing.2, size]

/-- An envelope that is refused is refused in every longer buffer. -/
theorem measure_append (refused : measure buffer = .error reason) (more : ByteArray) :
    measure (buffer ++ more) = .error reason := by
  rw [measure_eq] at refused ⊢
  split at refused
  · simp at refused
  · rename_i count found
    have inside : 4 + wordSize ≤ buffer.size := (wordAt?_eq_some_iff.mp found).1
    have enough : 4 ≤ buffer.size := by omega
    simp only [wordAt?_append found more, front_append enough more]
    split at refused
    · rename_i foreign
      rwa [if_pos foreign]
    · rename_i known
      rw [if_neg known]
      split at refused
      · rename_i many
        rwa [if_pos many]
      · rename_i few
        rw [if_neg few]
        exact measureParts_append refused more

/-- Decoding fails exactly when measuring does, and leaves the buffer. -/
theorem decode_eq_error_iff : decode buffer = (.error reason, rest) ↔
    measure buffer = .error reason ∧ rest = buffer := by
  unfold decode
  split <;> rename_i measured
  · rw [measured]
    simp [eq_comm]
  · simp [measured]
  · simp [measured]

/-- A message that comes off a buffer comes off every longer one. -/
theorem decode_append_of_message (decoded : decode buffer = (.ok (some message), rest))
    (more : ByteArray) : decode (buffer ++ more) = (.ok (some message), rest ++ more) := by
  obtain ⟨bytes, written, rfl⟩ := decode_eq_some_iff.mp decoded
  exact decode_eq_some_iff.mpr ⟨bytes, written, ByteArray.append_assoc⟩

/-- A buffer that is refused is refused for the same reason however it goes on. -/
theorem decode_append_of_error (decoded : decode buffer = (.error reason, rest))
    (more : ByteArray) : decode (buffer ++ more) = (.error reason, rest ++ more) := by
  obtain ⟨refused, rfl⟩ := decode_eq_error_iff.mp decoded
  exact decode_eq_error_iff.mpr ⟨measure_append refused more, rfl⟩

/-- Draining goes on behind a message that comes off. -/
theorem drain_of_message (decoded : decode buffer = (.ok (some message), rest)) :
    drain buffer = { drain rest with messages := message :: (drain rest).messages } := by
  rw [drain.eq_def]
  split <;> simp_all

/-- Draining stops where more bytes are needed. -/
theorem drain_of_none (decoded : decode buffer = (.ok none, rest)) :
    drain buffer = ⟨[], none, rest⟩ := by
  rw [drain.eq_def]
  split <;> simp_all

/-- Draining stops at an error. -/
theorem drain_of_error (decoded : decode buffer = (.error reason, rest)) :
    drain buffer = ⟨[], some reason, rest⟩ := by
  rw [drain.eq_def]
  split <;> simp_all

@[simp] theorem drain_empty : drain .empty = ⟨[], none, .empty⟩ :=
  drain_of_none rfl

/-- One more chunk: append it to the bytes left and drain them again. -/
def Drained.feed (state : Drained) (chunk : ByteArray) : Drained :=
  let later := drain (state.rest ++ chunk)
  { later with messages := state.messages ++ later.messages }

/-- What a receiver has after chunks that arrived one by one. -/
def receive (chunks : List ByteArray) : Drained :=
  chunks.foldl Drained.feed ⟨[], none, .empty⟩

/-- All bytes of some chunks. -/
def joined (chunks : List ByteArray) : ByteArray :=
  chunks.foldr (· ++ ·) .empty

@[simp] theorem joined_cons (chunk : ByteArray) (chunks : List ByteArray) :
    joined (chunk :: chunks) = chunk ++ joined chunks := rfl

theorem joined_append {chunks others : List ByteArray} :
    joined (chunks ++ others) = joined chunks ++ joined others := by
  induction chunks with
  | nil => rw [List.nil_append, joined, joined, List.foldr_nil, ByteArray.empty_append]
  | cons chunk rest step =>
    rw [List.cons_append, joined_cons, step, joined_cons, ByteArray.append_assoc]

/-- Draining before more bytes come changes nothing. -/
theorem drain_append (buffer more : ByteArray) :
    drain (buffer ++ more) = (drain buffer).feed more := by
  fun_induction drain buffer with
  | case1 buffer message rest decoded later step =>
    rw [drain_of_message (decode_append_of_message decoded more), step]
    rfl
  | case2 buffer rest decoded =>
    obtain rfl : rest = buffer := decode_unchanged decoded (by simp)
    rfl
  | case3 buffer reason rest decoded =>
    obtain rfl : rest = buffer := decode_unchanged decoded (by simp)
    rfl

/-- What a receiver has depends only on all the bytes that came. -/
theorem receive_eq_drain (chunks : List ByteArray) : receive chunks = drain (joined chunks) := by
  have run (buffer : ByteArray) :
      chunks.foldl Drained.feed (drain buffer) = drain (buffer ++ joined chunks) := by
    induction chunks generalizing buffer with
    | nil => rw [joined, List.foldr_nil, ByteArray.append_empty, List.foldl_nil]
    | cons chunk rest step =>
      rw [List.foldl_cons, ← drain_append, step, joined_cons, ByteArray.append_assoc]
  rw [receive, ← drain_empty, run, ByteArray.empty_append]

/-- An error is reported again after more bytes, and no message comes any more. -/
theorem drain_append_of_fault (faulty : (drain buffer).fault = some reason) (more : ByteArray) :
    drain (buffer ++ more) = { drain buffer with rest := (drain buffer).rest ++ more } := by
  fun_induction drain buffer with
  | case1 buffer message rest decoded later step =>
    rw [drain_of_message (decode_append_of_message decoded more), step faulty]
  | case2 => simp at faulty
  | case3 buffer other rest decoded =>
    rw [drain_of_error (decode_append_of_error decoded more)]

/-- A part of an envelope asks for more bytes. -/
theorem decode_of_proper_front {front back : ByteArray}
    (written : encode message = .ok (front ++ back)) (proper : back.size ≠ 0) :
    decode front = (.ok none, front) := by
  have whole : decode (front ++ back) = (.ok (some message), .empty) :=
    decode_eq_some_iff.mpr ⟨front ++ back, written, ByteArray.append_empty.symm⟩
  match decoded : decode front with
  | (.ok none, rest) =>
    rw [decode_unchanged decoded (by simp)]
  | (.ok (some early), rest) =>
    have again := decode_append_of_message decoded back
    rw [whole, Prod.mk.injEq] at again
    have sizes := congrArg ByteArray.size again.2
    rw [ByteArray.size_append, ByteArray.size_empty] at sizes
    omega
  | (.error reason, rest) =>
    have again := decode_append_of_error decoded back
    simp [whole] at again

/-- Envelopes behind each other drain to their messages, in front of what the
bytes behind them drain to. -/
theorem drain_envelopes {sent : List Message} {envelopes : List ByteArray}
    (written : sent.mapM encode = .ok envelopes) (tail : ByteArray) :
    drain (joined envelopes ++ tail) =
      { drain tail with messages := sent ++ (drain tail).messages } := by
  induction sent generalizing envelopes with
  | nil =>
    obtain rfl : envelopes = [] := by simpa [pure, Except.pure] using written.symm
    rw [joined, List.foldr_nil, ByteArray.empty_append, List.nil_append]
  | cons message sent step =>
    obtain ⟨envelope, others, first, later, rfl⟩ : ∃ envelope others,
        encode message = .ok envelope ∧ sent.mapM encode = .ok others ∧
          envelopes = envelope :: others := by
      rw [List.mapM_cons] at written
      simp only [bind, Except.bind, pure, Except.pure] at written
      grind
    have taken : decode (envelope ++ (joined others ++ tail)) =
        (.ok (some message), joined others ++ tail) :=
      decode_eq_some_iff.mpr ⟨envelope, first, rfl⟩
    rw [joined_cons, ByteArray.append_assoc, drain_of_message taken, step later, List.cons_append]

/-- How a stream is cut does not show. Two ways of cutting the same bytes leave a
receiver with the same messages, the same error or none, and the same bytes.
Envelopes with a part of one more behind them give exactly their messages and
leave that part. An error is final: after it whatever bytes come are kept, no
message comes any more, and a buffer that was refused is refused again. -/
theorem receive_cut_free :
    (∀ chunks others, joined chunks = joined others → receive chunks = receive others) ∧
    (∀ sent envelopes next front back chunks,
      sent.mapM encode = .ok envelopes → encode next = .ok (front ++ back) → back.size ≠ 0 →
      joined chunks = joined envelopes ++ front → receive chunks = ⟨sent, none, front⟩) ∧
    (∀ chunks more reason, (receive chunks).fault = some reason →
      receive (chunks ++ more) =
        { receive chunks with rest := (receive chunks).rest ++ joined more }) ∧
    ∀ buffer reason, decode buffer = (.error reason, buffer) →
      ∀ more, decode (buffer ++ more) = (.error reason, buffer ++ more) := by
  refine ⟨?cuts, ?envelopes, ?final, ?again⟩
  case cuts =>
    intro chunks others same
    rw [receive_eq_drain, receive_eq_drain, same]
  case envelopes =>
    intro sent envelopes next front back chunks written part proper bytes
    rw [receive_eq_drain, bytes, drain_envelopes written,
      drain_of_none (decode_of_proper_front part proper), List.append_nil]
  case final =>
    intro chunks more reason faulty
    have whole : joined (chunks ++ more) = joined chunks ++ joined more := joined_append
    rw [receive_eq_drain] at faulty ⊢
    rw [receive_eq_drain, whole, drain_append_of_fault faulty]
  case again =>
    intro buffer reason decoded more
    exact decode_append_of_error decoded more

end Envelope

end PhotonFerry.Wire
