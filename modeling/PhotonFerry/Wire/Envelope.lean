import PhotonFerry.Number.Word
import PhotonFerry.Wire.Message
/-!
# Envelopes

On a byte stream a message travels in an envelope: four magic bytes, the number
of parts, and for each part its length and its bytes; numbers are 32-bit words
with the lowest byte first. `decode` takes the first whole envelope off a buffer.
While the envelope is incomplete, and on every error, the buffer stays as it was.
-/

namespace PhotonFerry.Wire.Envelope

/-- The bytes that begin every envelope. -/
def magic : List UInt8 := "PHMP".toUTF8.data.toList

/-- The largest number of parts. -/
def partLimit : Nat := 64

/-- The largest size of an envelope. -/
def sizeLimit : Nat := 1024 * 1024 * 1024

/-- The size of the magic bytes and the number of parts. -/
def headerSize : Nat := 8

/-- The word that stands for a length. -/
def lengthBytes (length : Nat) : ByteArray :=
  packWords [UInt32.ofNat length]

/-- The parts with their lengths, one after the other. -/
def body : Message → ByteArray
  | [] => .empty
  | part :: rest => lengthBytes part.size ++ part ++ body rest

/-- The size of an envelope with the given parts. -/
def encodedSize (parts : Message) : Nat :=
  headerSize + (parts.map fun part => wordSize + part.size).foldr (· + ·) 0

/-- The envelope of a message. -/
def encode (parts : Message) : Except WireError ByteArray :=
  if partLimit < parts.length then .error (.tooManyParts (parts.length % twoTo 32) partLimit)
  else if sizeLimit < encodedSize parts then
    .error (.messageTooLarge (encodedSize parts) sizeLimit)
  else .ok (⟨magic.toArray⟩ ++ lengthBytes parts.length ++ body parts)

/-- What measuring comes to, and the running offset on the way: each of its values,
noted before it is compared with anything. -/
structure Survey where
  answer : Except WireError (Option Nat)
  offsets : List Nat

/-- Measure the next `count` parts that begin at `offset`, as far as their lengths
have arrived. -/
def surveyParts (buffer : ByteArray) : (count offset : Nat) → Survey
  | 0, offset => ⟨.ok (if offset ≤ buffer.size then some offset else none), [offset]⟩
  | count + 1, offset =>
    match wordAt? buffer offset with
    | none => ⟨.ok none, [offset]⟩
    | some length =>
      let next := offset + wordSize + length.toNat
      if sizeLimit < next then ⟨.error (.messageTooLarge next sizeLimit), [offset, next]⟩
      else
        let later := surveyParts buffer count next
        { later with offsets := offset :: later.offsets }

/-- Where the next `count` parts that begin at `offset` end, as far as their
lengths have arrived. -/
def measureParts (buffer : ByteArray) (count offset : Nat) : Except WireError (Option Nat) :=
  (surveyParts buffer count offset).answer

theorem measureParts_zero (buffer : ByteArray) (offset : Nat) :
    measureParts buffer 0 offset = .ok (if offset ≤ buffer.size then some offset else none) := rfl

/-- Parts are measured one after the other. -/
theorem measureParts_succ (buffer : ByteArray) (count offset : Nat) :
    measureParts buffer (count + 1) offset =
      match wordAt? buffer offset with
      | none => .ok none
      | some length =>
        let next := offset + wordSize + length.toNat
        if sizeLimit < next then .error (.messageTooLarge next sizeLimit)
        else measureParts buffer count next := by
  rw [measureParts, surveyParts]
  cases wordAt? buffer offset with
  | none => rfl
  | some length => simp only [apply_ite Survey.answer, measureParts]

/-- The first four bytes of a buffer. -/
def front (buffer : ByteArray) : List UInt8 :=
  (buffer.extract 0 4).data.toList

/-- Measure the envelope at the front of a buffer. There is a running offset once its
header is known. -/
def survey (buffer : ByteArray) : Survey :=
  match wordAt? buffer 4 with
  | none => ⟨.ok none, []⟩
  | some count =>
    if front buffer ≠ magic then ⟨.error (.invalidMagic (front buffer)), []⟩
    else if partLimit < count.toNat then ⟨.error (.tooManyParts count.toNat partLimit), []⟩
    else surveyParts buffer count.toNat headerSize

/-- The size of the envelope at the front of a buffer, once it is complete. -/
def measure (buffer : ByteArray) : Except WireError (Option Nat) :=
  (survey buffer).answer

/-- Behind the header the parts are measured. -/
theorem measure_eq (buffer : ByteArray) :
    measure buffer =
      match wordAt? buffer 4 with
      | none => .ok none
      | some count =>
        if front buffer ≠ magic then .error (.invalidMagic (front buffer))
        else if partLimit < count.toNat then .error (.tooManyParts count.toNat partLimit)
        else measureParts buffer count.toNat headerSize := by
  rw [measure, survey]
  cases wordAt? buffer 4 with
  | none => rfl
  | some count => simp only [apply_ite Survey.answer, measureParts]

/-- The next `count` parts that begin at `offset`; none if a length or a part
reaches beyond the end of the envelope. -/
def splitParts? (envelope : ByteArray) : (count offset : Nat) → Option Message
  | 0, _ => some []
  | count + 1, offset => do
    let length ← wordAt? envelope offset
    let stop := offset + wordSize + length.toNat
    if envelope.size < stop then none
    else
      let later ← splitParts? envelope count stop
      some (envelope.extract (offset + wordSize) stop :: later)

/-- The parts of an envelope. -/
def split? (envelope : ByteArray) : Option Message := do
  let count ← wordAt? envelope 4
  splitParts? envelope count.toNat headerSize

/-- The end of a run of parts does not lie before its beginning. -/
theorem le_of_measureParts {buffer : ByteArray} {count offset stop : Nat}
    (measured : measureParts buffer count offset = .ok (some stop)) :
    offset ≤ stop ∧ stop ≤ buffer.size := by
  induction count generalizing offset with
  | zero =>
    simp only [measureParts_zero] at measured
    split at measured
    · simp only [Except.ok.injEq, Option.some.injEq] at measured
      omega
    · simp at measured
  | succ count step =>
    simp only [measureParts_succ] at measured
    split at measured
    · simp at measured
    · split at measured
      · simp at measured
      · have := step measured
        omega

/-- A complete envelope holds its header and lies inside the buffer. -/
theorem measure_bounds {buffer : ByteArray} {size : Nat}
    (measured : measure buffer = .ok (some size)) :
    headerSize ≤ size ∧ size ≤ buffer.size := by
  rw [measure_eq] at measured
  grind [→ le_of_measureParts]

/-- Parts that were measured can be split off: nothing is read beyond their end. -/
theorem isSome_splitParts? {buffer : ByteArray} {count offset stop size : Nat}
    (measured : measureParts buffer count offset = .ok (some stop))
    (inside : stop ≤ size) (short : size ≤ buffer.size) :
    (splitParts? (buffer.extract 0 size) count offset).isSome := by
  induction count generalizing offset with
  | zero => rfl
  | succ count step =>
    simp only [measureParts_succ] at measured
    split at measured
    · simp at measured
    · rename_i length found
      split at measured
      · simp at measured
      · have later := step measured
        have bounds := le_of_measureParts measured
        have here : wordAt? (buffer.extract 0 size) offset = some length := by
          rw [wordAt?_extract (by omega) short, found]
        have fits : ¬ (buffer.extract 0 size).size < offset + wordSize + length.toNat := by
          rw [ByteArray.size_extract]
          omega
        simp only [splitParts?, here, Option.bind_eq_bind, Option.bind_some, fits, if_false]
        obtain ⟨parts, rest⟩ := Option.isSome_iff_exists.mp later
        simp [rest]

/-- An envelope that was measured can be split into its parts. -/
theorem isSome_split? {buffer : ByteArray} {size : Nat}
    (measured : measure buffer = .ok (some size)) : (split? (buffer.extract 0 size)).isSome := by
  have bounds := measure_bounds measured
  rw [measure_eq] at measured
  split at measured
  · simp at measured
  · rename_i count found
    split at measured
    · simp at measured
    · split at measured
      · simp at measured
      · have here : wordAt? (buffer.extract 0 size) 4 = some count := by
          rw [wordAt?_extract (by simpa [headerSize, wordSize] using bounds.1) bounds.2, found]
        simp only [split?, here, Option.bind_eq_bind, Option.bind_some]
        exact isSome_splitParts? measured (Nat.le_refl _) bounds.2

/-- Take the first complete message off a buffer; `none` asks for more bytes. -/
def decode (buffer : ByteArray) : Except WireError (Option Message) × ByteArray :=
  match measured : measure buffer with
  | .error reason => (.error reason, buffer)
  | .ok none => (.ok none, buffer)
  | .ok (some size) =>
    let parts := (split? (buffer.extract 0 size)).get (isSome_split? measured)
    (.ok (some parts), buffer.extract size buffer.size)

/-- Taking a message off a buffer leaves fewer bytes. -/
theorem size_decode_lt {buffer rest : ByteArray} {message : Message}
    (decoded : decode buffer = (.ok (some message), rest)) : rest.size < buffer.size := by
  unfold decode at decoded
  split at decoded
  · simp at decoded
  · simp at decoded
  · rename_i size measured
    have bounds := measure_bounds measured
    simp only [Prod.mk.injEq] at decoded
    rw [← decoded.2, ByteArray.size_extract]
    simp only [headerSize] at bounds
    omega

/-- What draining a buffer gives: the complete messages, what stopped it, and
the bytes left. -/
structure Drained where
  messages : List Message
  fault : Option WireError
  rest : ByteArray

/-- Take messages off a buffer until none is complete or an error comes. -/
def drain (buffer : ByteArray) : Drained :=
  match _decoded : decode buffer with
  | (.ok (some message), rest) =>
    let later := drain rest
    { later with messages := message :: later.messages }
  | (.ok none, rest) => ⟨[], none, rest⟩
  | (.error reason, rest) => ⟨[], some reason, rest⟩
termination_by buffer.size
decreasing_by exact size_decode_lt _decoded

end PhotonFerry.Wire.Envelope
