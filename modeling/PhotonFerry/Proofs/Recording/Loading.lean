import PhotonFerry.Proofs.Recording.Rows
/-!
# Whatever a row holds

A recording may come from anywhere, so that a row of events may hold any cells. Loading
it either fills the receiver with exactly what the row holds or says what is wrong and
leaves the receiver alone: a count below zero is reported before any column, and of
columns with a wrong length the first one is reported. What is filled in is aligned, so
that nothing behind the loading can meet columns of different length.
-/

namespace PhotonFerry.RecordingTable

open Recording

/-- Every cell of a row is of the kind that is read from it. What stands behind the columns
of a recording is not looked at. -/
structure Typed (cells : List Cell) (count : Int) (blobs : List ByteArray) : Prop where
  ten : blobs.length = Schema.sampleColumns.length
  cells : ∃ further, cells = .integer count :: (blobs.map Cell.blob ++ further)

/-- A row that stands for an event: each column has as many words as are counted. -/
structure Sound (cells : List Cell) (count : Nat) (blobs : List ByteArray) : Prop where
  typed : Typed cells count blobs
  sizes : ∀ blob ∈ blobs, blob.size = count * Wire.wordSize

/-- What loading an event with a row comes to, and what it leaves in the receiver. -/
structure LoadsRow (event : UInt32) (cells : List Cell) (out : PhotoelectronBatch)
    (loaded : Except RecordingError Unit × PhotoelectronBatch) : Prop where
  succeeds : loaded.1 = .ok () ↔ ∃ count blobs, Sound cells count blobs
  /-- The columns of the receiver have exactly the bytes of the row. -/
  filled : ∀ count blobs, Sound cells count blobs →
    loaded.2.event = event ∧ sampleBlobs loaded.2 = blobs ∧ loaded.2.Aligned ∧
      loaded.2.size = count
  unchanged : loaded.1 ≠ .ok () → loaded.2 = out
  negative : ∀ count blobs, Typed cells count blobs → count < 0 →
    loaded.1 = .error (.malformedEvent event Schema.countColumn s!"negative count {count}")
  /-- The first column with a wrong length is named. -/
  wrongLength : ∀ (count : Nat) before blob after column,
    Typed cells count (before ++ blob :: after) →
    (∀ right ∈ before, right.size = count * Wire.wordSize) →
    blob.size ≠ count * Wire.wordSize → Schema.sampleColumns[before.length]? = some column →
    ∃ flaw, Wire.checkLength blob before.length count = .error flaw ∧
      loaded.1 = .error (.malformedEvent event column flaw.message)

section Rows

variable {table : RecordingTable} {relation : Relation} {event : UInt32} {cells : List Cell}
  {blobs before after : List ByteArray} {blob : ByteArray} {out : PhotoelectronBatch}

/-- A row is typed exactly when it can be taken apart. -/
theorem typed_iff {count : Int} : Typed cells count blobs ↔ readRow cells = .ok (count, blobs) := by
  rw [readRow_eq_ok_iff]
  exact ⟨fun typed => ⟨typed.ten, typed.cells⟩, fun ⟨ten, cells⟩ => ⟨ten, cells⟩⟩

/-- A frame of another length does not pass the check. -/
theorem exists_flaw (index : Nat) {count : Nat} (wrong : blob.size ≠ count * Wire.wordSize) :
    ∃ flaw, Wire.checkLength blob index count = .error flaw := by
  cases checked : Wire.checkLength blob index count with
  | error flaw => exact ⟨flaw, rfl⟩
  | ok => exact absurd (Wire.checkLength_eq_ok_iff.mp checked) wrong

/-- The first blob with a wrong length decides what is reported. -/
theorem checkBlobs_of_first {count index : Nat} {columns : List String} {column : String}
    {flaw : Wire.WireError} (right : ∀ blob ∈ before, blob.size = count * Wire.wordSize)
    (named : columns[before.length]? = some column)
    (flawed : Wire.checkLength blob (index + before.length) count = .error flaw) :
    checkBlobs event count index columns (before ++ blob :: after) =
      .error (.malformedEvent event column flaw.message) := by
  induction before generalizing index columns with
  | nil =>
    cases columns with
    | nil => simp at named
    | cons first rest =>
      obtain rfl : first = column := by simpa using named
      simp only [List.length_nil, Nat.add_zero] at flawed
      simp only [List.nil_append, checkBlobs, flawed]
  | cons first before step =>
    cases columns with
    | nil => simp at named
    | cons name columns =>
      obtain ⟨size, sizes⟩ := List.forall_mem_cons.mp right
      have passed : Wire.checkLength first index count = .ok () :=
        Wire.checkLength_eq_ok_iff.mpr size
      have later : index + 1 + before.length = index + (first :: before).length := by
        rw [List.length_cons]
        omega
      simp only [List.cons_append, checkBlobs, passed]
      apply step sizes
      · simpa using named
      · rw [later]
        exact flawed

section Typed

variable (has : table.HasEvents relation)
  (row : relation.rows.find? event.toNat = some cells)
include has row

/-- A count below zero is reported as it stands. -/
theorem readEvent_of_negative {count : Int} (typed : Typed cells count blobs)
    (negative : count < 0) : table.readEvent event =
      .error (.malformedEvent event Schema.countColumn s!"negative count {count}") := by
  rw [has.readEvent_of_cells row, typed_iff.mp typed]
  cases count with
  | ofNat count => exact absurd negative (Int.not_lt.mpr (Int.natCast_nonneg count))
  | negSucc below => rfl

/-- A row in which each column has the counted length is read. -/
theorem readEvent_of_sound {count : Nat} (sound : Sound cells count blobs) :
    table.readEvent event = .ok (batchOfBlobs event blobs) := by
  have checked : checkBlobs event count 0 Schema.sampleColumns blobs = .ok () :=
    (checkBlobs_eq_ok_iff (Nat.le_of_eq sound.typed.ten)).mpr sound.sizes
  have readable : readRow cells = .ok (Int.ofNat count, blobs) := typed_iff.mp sound.typed
  rw [has.readEvent_of_cells row, readable]
  dsimp only
  rw [checked]

/-- Of the columns with a wrong length the first one is reported. -/
theorem readEvent_of_wrongLength {count : Nat} {column : String} {flaw : Wire.WireError}
    (typed : Typed cells count (before ++ blob :: after))
    (right : ∀ blob ∈ before, blob.size = count * Wire.wordSize)
    (named : Schema.sampleColumns[before.length]? = some column)
    (flawed : Wire.checkLength blob before.length count = .error flaw) :
    table.readEvent event = .error (.malformedEvent event column flaw.message) := by
  have readable : readRow cells = .ok (Int.ofNat count, before ++ blob :: after) :=
    typed_iff.mp typed
  have here : Wire.checkLength blob (0 + before.length) count = .error flaw := by
    rwa [Nat.zero_add]
  rw [has.readEvent_of_cells row, readable]
  dsimp only
  rw [checkBlobs_of_first right named here]

/-- Nothing but such a row is read. -/
theorem exists_sound_of_readEvent {batch : PhotoelectronBatch}
    (read : table.readEvent event = .ok batch) : ∃ count blobs, Sound cells count blobs := by
  rw [has.readEvent_of_cells row] at read
  cases readable : readRow cells with
  | error reason => simp [readable] at read
  | ok parts =>
    obtain ⟨count, blobs⟩ := parts
    have typed : Typed cells count blobs := typed_iff.mpr readable
    cases count with
    | negSucc below => simp [readable] at read
    | ofNat count =>
      cases checked : checkBlobs event count 0 Schema.sampleColumns blobs with
      | error reason => simp [readable, checked] at read
      | ok =>
        exact ⟨count, blobs, typed, (checkBlobs_eq_ok_iff (Nat.le_of_eq typed.ten)).mp checked⟩

end Typed

/-- Loading succeeds exactly when the event is read. -/
theorem loadEvent_fst_eq_ok_iff :
    (table.loadEvent event out).1 = .ok () ↔ ∃ batch, table.readEvent event = .ok batch := by
  unfold loadEvent
  split <;> simp [*]

theorem loadEvent_of_error {reason : RecordingError}
    (failed : table.readEvent event = .error reason) :
    table.loadEvent event out = (.error reason, out) := by
  rw [loadEvent, failed]

/-- Loading an event that has a row, whatever is in its cells. -/
theorem loadsRow (has : table.HasEvents relation)
    (row : relation.rows.find? event.toNat = some cells) :
    LoadsRow event cells out (table.loadEvent event out) where
  succeeds := by
    rw [loadEvent_fst_eq_ok_iff]
    constructor
    · rintro ⟨batch, read⟩
      exact exists_sound_of_readEvent has row read
    · rintro ⟨count, blobs, sound⟩
      exact ⟨_, readEvent_of_sound has row sound⟩
  filled := by
    intro count blobs sound
    obtain ⟨columns, size⟩ : sampleBlobs (batchOfBlobs event blobs) = blobs ∧
        (batchOfBlobs event blobs).size = count :=
      sampleBlobs_batchOfBlobs sound.typed.ten sound.sizes
    have checked : checkBlobs event count 0 Schema.sampleColumns blobs = .ok () :=
      (checkBlobs_eq_ok_iff (Nat.le_of_eq sound.typed.ten)).mpr sound.sizes
    rw [loadEvent, readEvent_of_sound has row sound]
    exact ⟨event_batchOfBlobs, columns, aligned_batchOfBlobs checked, size⟩
  unchanged := by
    intro failed
    cases read : table.readEvent event with
    | error reason => rw [loadEvent_of_error read]
    | ok batch => exact absurd (loadEvent_fst_eq_ok_iff.mpr ⟨batch, read⟩) failed
  negative := by
    intro count blobs typed negative
    rw [loadEvent_of_error (readEvent_of_negative has row typed negative)]
  wrongLength := by
    intro count before blob after column typed right wrong named
    obtain ⟨flaw, flawed⟩ := exists_flaw before.length wrong
    refine ⟨flaw, flawed, ?_⟩
    rw [loadEvent_of_error (readEvent_of_wrongLength has row typed right named flawed)]

end Rows

/-- Whatever the rows of a recording hold, loading an event is safe. Without a row the event is
missing and the receiver is left alone. With a row it is loaded exactly if the row holds a count
that is not negative and ten columns of that many words, and then the receiver has the number of
the event and columns with exactly these bytes; in every other case the receiver is left alone. If
all cells are of the right kind the error names what is wrong: the count if it is negative, and
otherwise the first column whose length is wrong. -/
theorem every_row_loads_safely {table : RecordingTable} {relation : Relation}
    (has : table.HasEvents relation) (event : UInt32) (out : PhotoelectronBatch) :
    let loaded := table.loadEvent event out
    match relation.rows.find? event.toNat with
    | none => loaded = (.error (.missingEvent event), out)
    | some cells => LoadsRow event cells out loaded := by
  intro loaded
  cases row : relation.rows.find? event.toNat with
  | none => exact loadEvent_of_error (has.readEvent_missing row)
  | some cells => exact loadsRow has row

/-- A row with a short second column, one with the largest count, and no row. -/
theorem every_row_loads_safely_broken :
    let words : ByteArray := ⟨#[0, 0, 0, 0, 255, 255, 255, 255]⟩
    let broken : ByteArray := ⟨#[0, 0, 0, 0, 0, 0]⟩
    let short : List Cell :=
      .integer 2 :: ([words] ++ broken :: List.replicate 8 words).map Cell.blob
    let huge : List Cell := .integer 9223372036854775807 :: (List.replicate 10 words).map Cell.blob
    let relation : Relation := { Schema.events with rows := [(0, short), (1, huge)] }
    let table : RecordingTable := ⟨{ relations := [relation, Schema.positions] }, false⟩
    let out : PhotoelectronBatch := PhotoelectronBatch.empty.setEvent 7
    table.HasEvents relation ∧
      table.loadEvent 0 out =
        (.error (.malformedEvent 0 "time" "Frame 1 has 6 bytes, expected 8"), out) ∧
      table.loadEvent 1 out = (.error (.malformedEvent 1 "channel_id"
        "Failed to decode message: frame 0: element count 9223372036854775807 overflows"), out) ∧
      table.loadEvent 2 out = (.error (.missingEvent 2), out) := by
  intro words broken short huge relation table out
  have has : table.HasEvents relation := by
    constructor
    · simp [table, relation, Database.get, Database.find?, Relation.isNamed, Schema.events]
    · decide
  have first : LoadsRow 0 short out (table.loadEvent 0 out) := every_row_loads_safely has 0 out
  have second : LoadsRow 1 huge out (table.loadEvent 1 out) := every_row_loads_safely has 1 out
  refine ⟨has, ?_, ?_, every_row_loads_safely has 2 out⟩
  · obtain ⟨flaw, flawed, failed⟩ := first.wrongLength 2 [words] broken (List.replicate 8 words)
      "time" ⟨rfl, [], rfl⟩ (by decide) (by decide) rfl
    obtain rfl : .frameLength 1 8 6 = flaw := Except.error.inj flawed
    exact Prod.ext failed (first.unchanged (by simp [failed]))
  · obtain ⟨flaw, flawed, failed⟩ := second.wrongLength 9223372036854775807 [] words
      (List.replicate 9 words) "channel_id" ⟨rfl, [], rfl⟩ (by decide) (by decide) rfl
    obtain rfl := Except.error.inj flawed
    exact Prod.ext failed (second.unchanged (by simp [failed]))

end PhotonFerry.RecordingTable
