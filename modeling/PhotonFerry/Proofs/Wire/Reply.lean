import PhotonFerry.Proofs.Wire.Columns
import PhotonFerry.Wire.Reply
/-!
# Replies are exact

A reply that is taken as photoelectrons is, frame by frame, the written form of
the batch that it gives, up to a number of samples that its second frame may
declare. So what counts can be said of the frames alone, a batch comes back bit
for bit from its written form, and a reply that does not count changes nothing.
-/

namespace PhotonFerry.Wire

/-- The second frame of a reply: the event, with the number of samples behind it
where that is declared. -/
def headerFrame (event : UInt32) (declared : Option UInt32) : ByteArray :=
  packWords (event :: declared.toList)

/-- The column frames of a batch in the order in which they travel. -/
def columnFrames (batch : PhotoelectronBatch) : List ByteArray :=
  columnFrame batch.channel :: batch.singles.map columnFrame ++ [columnFrame batch.flags]

/-- A reply carries the photoelectrons of an event: behind the whole tag and a
header for the event come ten columns of one length, which is the declared number
of samples if there is one. -/
def CarriesSamples (message : Message) (event : UInt32) : Prop :=
  ∃ (declared : Option UInt32) (columns : List ByteArray) (count : Nat),
    message = Tag.simComplete.frame :: headerFrame event declared :: columns ∧
    columns.length = photoelectronColumns ∧
    (∀ column ∈ columns, column.size = count * wordSize) ∧
    ∀ stated ∈ declared, stated.toNat = count

/-- A reply announces photoelectrons stored elsewhere: the whole tag and a header
for the event begin it. -/
def Announces (message : Message) (event : UInt32) : Prop :=
  ∃ declared rest, message = Tag.simCompleteAsync.frame :: headerFrame event declared :: rest

section Frames

variable {message : Message} {event : UInt32} {declared : Option UInt32}
  {batch : PhotoelectronBatch}

/-- The second frame is read exactly when it is a header. -/
theorem replyHeader_eq_ok_iff :
    replyHeader message = .ok (event, declared) ↔
      message[1]? = some (headerFrame event declared) := by
  unfold replyHeader
  cases second : message[1]? with
  | none => simp
  | some frame =>
    rw [Option.some.injEq]
    constructor
    · intro read
      simp only at read
      split at read
      · simp at read
      · rename_i word first
        split at read
        · rename_i size
          simp only [Except.ok.injEq, Prod.mk.injEq] at read
          obtain ⟨rfl, rfl⟩ := read
          exact (wordAt?_eq_some_iff_eq size).mp first
        · split at read
          · rename_i size
            simp only [Except.ok.injEq, Prod.mk.injEq] at read
            obtain ⟨rfl, rfl⟩ := read
            have next : wordAt? frame wordSize = some _ := wordAt?_of_le (by rw [size]; decide)
            rw [next]
            exact (wordsAt?_eq_some_iff_eq size).mp ⟨first, next⟩
          · simp at read
    · rintro rfl
      cases declared with
      | none =>
        have size : (headerFrame event none).size = wordSize := rfl
        have first := (wordAt?_eq_some_iff_eq size).mpr rfl
        simp only [first, size, if_true]
      | some count =>
        have size : (headerFrame event (some count)).size = 2 * wordSize := rfl
        obtain ⟨first, next⟩ := (wordsAt?_eq_some_iff_eq size).mpr rfl
        have longer : ¬ 2 * wordSize = wordSize := by decide
        simp only [first, next, size, longer, if_false, if_true]

/-- Ten columns of one length are the frames of the batch that they make. -/
theorem columnFrames_of_columns {channel dx dy dz polx poly polz wavelength time flags : ByteArray}
    {count : Nat} (event : UInt32)
    (sizes : ∀ column ∈ [channel, dx, dy, dz, polx, poly, polz, wavelength, time, flags],
      column.size = count * wordSize) :
    columnFrames {
      event := event
      channel := columnOf channel
      dx := columnOf dx
      dy := columnOf dy
      dz := columnOf dz
      polx := columnOf polx
      poly := columnOf poly
      polz := columnOf polz
      wavelength := columnOf wavelength
      time := columnOf time
      flags := columnOf flags } =
      [channel, dx, dy, dz, polx, poly, polz, wavelength, time, flags] := by
  simp only [List.forall_mem_cons] at sizes
  obtain ⟨channelSize, dxSize, dySize, dzSize, polxSize, polySize, polzSize, wavelengthSize,
    timeSize, flagsSize, -⟩ := sizes
  simp only [columnFrames, PhotoelectronBatch.singles, List.map_cons, List.map_nil,
    List.cons_append, List.nil_append]
  rw [columnFrame_columnOf channelSize, columnFrame_columnOf dxSize, columnFrame_columnOf dySize,
    columnFrame_columnOf dzSize, columnFrame_columnOf polxSize, columnFrame_columnOf polySize,
    columnFrame_columnOf polzSize, columnFrame_columnOf wavelengthSize,
    columnFrame_columnOf timeSize, columnFrame_columnOf flagsSize]

/-- The photoelectrons in ten columns are read exactly when the columns are the
frames of a batch, with as many samples as were declared. -/
theorem decodeColumns_eq_ok_iff :
    decodeColumns message event declared = .ok batch ↔
      batch.Aligned ∧ batch.event = event ∧ (∀ stated ∈ declared, stated.toNat = batch.size) ∧
      ∃ tag header, message = tag :: header :: columnFrames batch := by
  constructor
  · intro decoded
    refine ⟨aligned_of_decodeColumns decoded, event_of_decodeColumns decoded, ?_⟩
    unfold decodeColumns at decoded
    split at decoded
    · rename_i tag header channel dx dy dz polx poly polz wavelength time flags
      split at decoded
      · simp at decoded
      · rename_i count counted
        split at decoded
        · simp at decoded
        · rename_i agreed
          split at decoded
          · simp at decoded
          · rename_i checked
            have channelSize := entryCount_eq_ok_iff.mp counted
            have sizes : ∀ column ∈ [channel, dx, dy, dz, polx, poly, polz, wavelength, time,
                flags], column.size = count * wordSize :=
              List.forall_mem_cons.mpr ⟨channelSize, checkLengths_eq_ok_iff.mp checked⟩
            simp only [Except.ok.injEq] at decoded
            subst decoded
            refine ⟨?_, tag, header, ?_⟩
            · intro stated member
              rw [PhotoelectronBatch.size, size_columnOf_of_size channelSize]
              simpa [Option.mem_def.mp member] using agreed
            · rw [columnFrames_of_columns event sizes]
    · simp at decoded
  · rintro ⟨aligned, rfl, agreed, tag, header, rfl⟩
    have counted : entryCount (columnFrame batch.channel) 2 = .ok batch.size :=
      entryCount_eq_ok_iff.mpr (size_columnFrame _)
    have checked : checkLengths batch.size 3
        (batch.singles.map columnFrame ++ [columnFrame batch.flags]) = .ok () := by
      refine checkLengths_eq_ok_iff.mpr fun frame member => ?_
      rcases List.mem_append.mp member with single | last
      · obtain ⟨column, among, rfl⟩ := List.mem_map.mp single
        rw [size_columnFrame, aligned.1 column among]
      · rw [List.mem_singleton.mp last, size_columnFrame, aligned.2]
    have stated : (declared.any fun stated => stated.toNat ≠ batch.size) = false := by
      cases declared with
      | none => rfl
      | some count => simp [agreed count rfl]
    simp only [PhotoelectronBatch.singles, List.map_cons, List.map_nil, List.cons_append,
      List.nil_append] at checked
    simp only [columnFrames, PhotoelectronBatch.singles, List.map_cons, List.map_nil,
      List.cons_append, List.nil_append, decodeColumns, counted, stated, checked,
      Bool.false_eq_true, if_false, columnOf_columnFrame]

/-- What a reply that counts went through. -/
theorem readSimReply_eq_ok_iff {answer : SimReply × PhotoelectronBatch} :
    readSimReply message event = .ok answer ↔
      ∃ tag declared, peekTag message = .ok tag ∧ replyHeader message = .ok (event, declared) ∧
        (tag = .simCompleteAsync ∧ answer = (.deferred, { event := event }) ∨
          tag = .simComplete ∧ ∃ batch, decodeColumns message event declared = .ok batch ∧
            answer = (.complete, batch)) := by
  unfold readSimReply
  grind

/-- A reply gives photoelectrons exactly when it is the written form of their batch,
with as many samples as are declared. -/
theorem readSimReply_complete_iff :
    readSimReply message event = .ok (.complete, batch) ↔
      batch.Aligned ∧ batch.event = event ∧ ∃ declared : Option UInt32,
        (∀ stated ∈ declared, stated.toNat = batch.size) ∧
        message = Tag.simComplete.frame :: headerFrame event declared :: columnFrames batch := by
  rw [readSimReply_eq_ok_iff]
  constructor
  · rintro ⟨tag, declared, peeked, headed, ⟨-, answer⟩ | ⟨rfl, read, decoded, answer⟩⟩
    · simp at answer
    · obtain rfl : batch = read := by simpa using answer
      obtain ⟨aligned, names, agreed, first, second, rfl⟩ := decodeColumns_eq_ok_iff.mp decoded
      obtain ⟨rest, split⟩ := peekTag_eq_ok_iff.mp peeked
      obtain rfl : first = Tag.simComplete.frame := (List.cons.inj split).1
      obtain rfl : second = headerFrame event declared := by
        simpa using replyHeader_eq_ok_iff.mp headed
      exact ⟨aligned, names, declared, agreed, rfl⟩
  · rintro ⟨aligned, names, declared, agreed, rfl⟩
    refine ⟨.simComplete, declared, peekTag_eq_ok_iff.mpr ⟨_, rfl⟩,
      replyHeader_eq_ok_iff.mpr rfl, .inr ⟨rfl, batch, ?_, rfl⟩⟩
    exact decodeColumns_eq_ok_iff.mpr ⟨aligned, names, agreed, _, _, rfl⟩

/-- A reply puts off the photoelectrons exactly when it announces them. -/
theorem readSimReply_deferred_iff :
    readSimReply message event = .ok (.deferred, batch) ↔
      Announces message event ∧ batch = { event := event } := by
  rw [readSimReply_eq_ok_iff]
  constructor
  · rintro ⟨tag, declared, peeked, headed, ⟨rfl, answer⟩ | ⟨-, read, -, answer⟩⟩
    · obtain ⟨rest, rfl⟩ := peekTag_eq_ok_iff.mp peeked
      have second : rest[0]? = some (headerFrame event declared) := by
        simpa using replyHeader_eq_ok_iff.mp headed
      obtain ⟨later, rfl⟩ := List.head?_eq_some_iff.mp (List.head?_eq_getElem? ▸ second)
      exact ⟨⟨declared, later, rfl⟩, (Prod.mk.inj answer).2⟩
    · simp at answer
  · rintro ⟨⟨declared, rest, rfl⟩, rfl⟩
    exact ⟨.simCompleteAsync, declared, peekTag_eq_ok_iff.mpr ⟨_, rfl⟩,
      replyHeader_eq_ok_iff.mpr rfl, .inl ⟨rfl, rfl⟩⟩

/-- The column frames of a batch with columns of one length have that length. -/
theorem size_of_mem_columnFrames (aligned : batch.Aligned) :
    ∀ column ∈ columnFrames batch, column.size = batch.size * wordSize := by
  intro column member
  simp only [columnFrames, List.cons_append, List.mem_cons, List.mem_append, List.mem_map,
    List.not_mem_nil, or_false] at member
  rcases member with rfl | ⟨single, among, rfl⟩ | rfl
  · exact size_columnFrame _
  · rw [size_columnFrame, aligned.1 single among]
  · rw [size_columnFrame, aligned.2]

/-- Ten columns of one length are the frames of a batch. -/
theorem exists_columnFrames {columns : List ByteArray} {count : Nat}
    (ten : columns.length = photoelectronColumns)
    (sizes : ∀ column ∈ columns, column.size = count * wordSize) (event : UInt32) :
    ∃ batch : PhotoelectronBatch, batch.Aligned ∧ batch.event = event ∧ batch.size = count ∧
      columns = columnFrames batch := by
  match columns, ten with
  | [channel, dx, dy, dz, polx, poly, polz, wavelength, time, flags], _ =>
    have frames := columnFrames_of_columns event sizes
    have size : (columnOf channel : Array UInt32).size = count :=
      size_columnOf_of_size (sizes channel List.mem_cons_self)
    refine ⟨_, ?_, ?_, ?_, frames.symm⟩
    · simp only [List.forall_mem_cons] at sizes
      simp [PhotoelectronBatch.Aligned, PhotoelectronBatch.singles, PhotoelectronBatch.size,
        size_columnOf, sizes]
    · rfl
    · exact size

/-- Whether a reply carries photoelectrons can be said of its frames alone. -/
theorem exists_readSimReply_complete_iff :
    (∃ batch, readSimReply message event = .ok (.complete, batch)) ↔
      CarriesSamples message event := by
  constructor
  · rintro ⟨batch, read⟩
    obtain ⟨aligned, -, declared, agreed, rfl⟩ := readSimReply_complete_iff.mp read
    exact ⟨declared, columnFrames batch, batch.size, rfl, rfl, size_of_mem_columnFrames aligned,
      agreed⟩
  · rintro ⟨declared, columns, count, rfl, ten, sizes, agreed⟩
    obtain ⟨batch, aligned, names, rfl, rfl⟩ := exists_columnFrames ten sizes event
    exact ⟨batch, readSimReply_complete_iff.mpr ⟨aligned, names, declared, agreed, rfl⟩⟩

/-- What is taken does not depend on the batch that receives it. -/
theorem decodeSimReply_eq_ok_iff {out : PhotoelectronBatch} {reply : SimReply} :
    decodeSimReply message event out = (.ok reply, batch) ↔
      readSimReply message event = .ok (reply, batch) := by
  unfold decodeSimReply
  split
  · rename_i read
    simp [read]
  · rename_i refused
    simp [refused]

/-- What is refused leaves the batch as it was. -/
theorem decodeSimReply_eq_error_iff {out : PhotoelectronBatch} {reason : WireError} :
    decodeSimReply message event out = (.error reason, batch) ↔
      readSimReply message event = .error reason ∧ batch = out := by
  unfold decodeSimReply
  split
  · rename_i read
    simp [read]
  · rename_i refused
    simp [refused, eq_comm]

theorem decodeSimReply_fst_eq_ok_iff {out : PhotoelectronBatch} {reply : SimReply} :
    (decodeSimReply message event out).1 = .ok reply ↔
      ∃ batch, readSimReply message event = .ok (reply, batch) := by
  constructor
  · intro taken
    exact ⟨_, decodeSimReply_eq_ok_iff.mp (Prod.ext taken rfl)⟩
  · rintro ⟨batch, read⟩
    exact congrArg Prod.fst (decodeSimReply_eq_ok_iff.mpr read)

/-- The written form of a batch is the reply that declares no number of samples. -/
theorem encodeSimComplete_eq (batch : PhotoelectronBatch) :
    encodeSimComplete batch =
      Tag.simComplete.frame :: headerFrame batch.event none :: columnFrames batch := rfl

/-- A header cut to one word is the one that declares no number of samples. -/
theorem extract_headerFrame : (headerFrame event declared).extract 0 wordSize =
    headerFrame event none := by
  have front : headerFrame event declared = packWords [event] ++ packWords declared.toList :=
    packWords_cons event declared.toList
  rw [front, ByteArray.extract_append_eq_left (by rw [size_packWords_singleton])]
  rfl

end Frames

/-- The reply decoder accepts exactly its format and takes all of a reply or
nothing of it: what is taken as photoelectrons is their written form, with a
header of one or two words; what is put off brings none; and what is refused
leaves the receiving batch as it was. Nothing else depends on that batch. -/
theorem decodeSimReply_exact (message : Message) (expected : UInt32) (out : PhotoelectronBatch) :
    ((decodeSimReply message expected out).1 = .ok .complete ↔ CarriesSamples message expected) ∧
    ((decodeSimReply message expected out).1 = .ok .deferred ↔ Announces message expected) ∧
    (∀ batch, decodeSimReply message expected out = (.ok .complete, batch) →
      batch.Aligned ∧ batch.event = expected ∧
        encodeSimComplete batch = message.modify 1 (·.extract 0 wordSize)) ∧
    (∀ batch, decodeSimReply message expected out = (.ok .deferred, batch) →
      batch = { event := expected }) ∧
    (∀ reason batch, decodeSimReply message expected out = (.error reason, batch) →
      batch = out) ∧
    (∀ reply batch prior, decodeSimReply message expected out = (.ok reply, batch) →
      decodeSimReply message expected prior = (.ok reply, batch)) ∧
    ∀ batch : PhotoelectronBatch, batch.Aligned →
      decodeSimReply (encodeSimComplete batch) batch.event out = (.ok .complete, batch) := by
  have taken (reply : SimReply) : (decodeSimReply message expected out).1 = .ok reply ↔
      ∃ batch, readSimReply message expected = .ok (reply, batch) :=
    decodeSimReply_fst_eq_ok_iff
  refine ⟨?complete, ?deferred, ?written, ?empty, ?refused, ?prior, ?back⟩
  case complete => rw [taken, exists_readSimReply_complete_iff]
  case deferred =>
    rw [taken]
    simp [readSimReply_deferred_iff]
  case written =>
    intro batch decoded
    obtain ⟨aligned, rfl, declared, -, rfl⟩ :=
      readSimReply_complete_iff.mp (decodeSimReply_eq_ok_iff.mp decoded)
    refine ⟨aligned, rfl, ?_⟩
    have cut : (headerFrame batch.event declared).extract 0 wordSize =
        headerFrame batch.event none := extract_headerFrame
    rw [encodeSimComplete_eq, ← cut]
    rfl
  case empty =>
    intro batch decoded
    exact (readSimReply_deferred_iff.mp (decodeSimReply_eq_ok_iff.mp decoded)).2
  case refused =>
    intro reason batch decoded
    exact (decodeSimReply_eq_error_iff.mp decoded).2
  case prior =>
    intro reply batch prior decoded
    exact decodeSimReply_eq_ok_iff.mpr (decodeSimReply_eq_ok_iff.mp decoded)
  case back =>
    intro batch aligned
    refine decodeSimReply_eq_ok_iff.mpr (readSimReply_complete_iff.mpr ?_)
    exact ⟨aligned, rfl, none, by simp, rfl⟩

end PhotonFerry.Wire
