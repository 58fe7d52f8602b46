import PhotonFerry.Proofs.Wire.Columns
import PhotonFerry.Recording.Table
/-!
# What a row holds

An event is read exactly when its row has the cells that storing some batch under its
number would give it, and then that batch is read. So whatever a file holds, no
recorded photoelectron is lost or changed by reading it, and none is made up.
-/

namespace PhotonFerry.RecordingTable

open Recording
section Cells

variable {event : UInt32} {batch : PhotoelectronBatch} {blobs : List ByteArray}
  {cells : List Cell}

/-- Two steps give a value when the first gives one from which the second gives it. -/
theorem bind_eq_ok_iff {ε α β : Type} {first : Except ε α} {next : α → Except ε β} {value : β} :
    first >>= next = .ok value ↔ ∃ middle, first = .ok middle ∧ next middle = .ok value := by
  cases first <;> simp [bind, Except.bind]

theorem blobOf_eq_ok_iff {index : Nat} {column : String} {cell : Cell} {blob : ByteArray} :
    blobOf index column cell = .ok blob ↔ cell = .blob blob := by
  cases cell <;> simp [blobOf]

theorem integerOf_eq_ok_iff {index : Nat} {column : String} {cell : Cell} {value : Int} :
    integerOf index column cell = .ok value ↔ cell = .integer value := by
  cases cell <;> simp [integerOf]

/-- Blobs are read from cells that begin with them. -/
theorem blobsFrom_eq_ok_iff {index : Nat} {columns : List String} :
    blobsFrom index columns cells = .ok blobs ↔ blobs.length = columns.length ∧
      ∃ further, cells = blobs.map Cell.blob ++ further := by
  induction columns generalizing index cells blobs with
  | nil =>
    rw [blobsFrom, Except.ok.injEq, List.length_nil, List.length_eq_zero_iff]
    constructor
    · rintro rfl
      exact ⟨rfl, cells, rfl⟩
    · exact fun ⟨nothing, _⟩ => nothing.symm
  | cons column columns step =>
    cases cells with
    | nil => cases blobs <;> simp [blobsFrom]
    | cons cell cells =>
      simp only [blobsFrom, bind_eq_ok_iff, blobOf_eq_ok_iff, step, Except.ok.injEq]
      constructor
      · rintro ⟨blob, rfl, later, ⟨length, further, rfl⟩, rfl⟩
        exact ⟨congrArg Nat.succ length, further, rfl⟩
      · rintro ⟨length, further, same⟩
        cases blobs with
        | nil => simp at length
        | cons blob blobs =>
          obtain ⟨rfl, rfl⟩ := List.cons.inj same
          exact ⟨blob, rfl, blobs, ⟨Nat.succ.inj length, further, rfl⟩, rfl⟩

/-- A row that can be read begins with its count and its columns. -/
theorem readRow_eq_ok_iff {count : Int} : readRow cells = .ok (count, blobs) ↔
    blobs.length = Schema.sampleColumns.length ∧
      ∃ further, cells = .integer count :: (blobs.map Cell.blob ++ further) := by
  cases cells with
  | nil => simp [readRow]
  | cons cell cells =>
    simp only [readRow, bind_eq_ok_iff, integerOf_eq_ok_iff, blobsFrom_eq_ok_iff, Except.ok.injEq,
      Prod.mk.injEq, List.cons.injEq]
    constructor
    · rintro ⟨count, rfl, blobs, ⟨length, further, rfl⟩, rfl, rfl⟩
      exact ⟨length, further, rfl, rfl⟩
    · rintro ⟨length, further, rfl, rfl⟩
      exact ⟨count, rfl, blobs, ⟨length, further, rfl⟩, rfl, rfl⟩

/-- The columns of an event in stored order make up the event. -/
theorem batchOfBlobs_sampleBlobs : batchOfBlobs batch.event (sampleBlobs batch) = batch := by
  simp only [batchOfBlobs, sampleBlobs, Wire.columnOf_columnFrame]

/-- Blobs of a length are the columns of the event that they make up. -/
theorem sampleBlobs_batchOfBlobs {count : Nat}
    (ten : blobs.length = Schema.sampleColumns.length)
    (sizes : ∀ blob ∈ blobs, blob.size = count * Wire.wordSize) :
    sampleBlobs (batchOfBlobs event blobs) = blobs ∧ (batchOfBlobs event blobs).size = count := by
  match blobs, ten, sizes with
  | [channel, time, wavelength, dx, dy, dz, polx, poly, polz, flags], _, sizes =>
    simp only [List.forall_mem_cons] at sizes
    obtain ⟨channel, time, wavelength, dx, dy, dz, polx, poly, polz, flags, -⟩ := sizes
    constructor
    · simp only [sampleBlobs, batchOfBlobs]
      rw [Wire.columnFrame_columnOf channel, Wire.columnFrame_columnOf time,
        Wire.columnFrame_columnOf wavelength, Wire.columnFrame_columnOf dx,
        Wire.columnFrame_columnOf dy, Wire.columnFrame_columnOf dz,
        Wire.columnFrame_columnOf polx, Wire.columnFrame_columnOf poly,
        Wire.columnFrame_columnOf polz, Wire.columnFrame_columnOf flags]
    · exact Wire.size_columnOf_of_size channel

theorem event_batchOfBlobs : (batchOfBlobs event blobs).event = event := by
  unfold batchOfBlobs
  split <;> rfl

/-- The columns of an event have the length that is stored with them. -/
theorem checkBlobs_sampleBlobs_iff {count : Nat} :
    checkBlobs event count 0 Schema.sampleColumns (sampleBlobs batch) = .ok () ↔
      batch.Aligned ∧ batch.size = count := by
  rw [checkBlobs_eq_ok_iff (Nat.le_refl _)]
  have words {size : Nat} : size * Wire.wordSize = count * Wire.wordSize ↔ size = count :=
    Nat.mul_left_inj (by decide)
  simp only [sampleBlobs, List.forall_mem_cons, Wire.size_columnFrame, words,
    PhotoelectronBatch.Aligned, PhotoelectronBatch.singles]
  grind [PhotoelectronBatch.size]

end Cells

/-- The recording has a relation of events with all the columns that are read. -/
structure HasEvents (table : RecordingTable) (relation : Relation) : Prop where
  found : table.database.get Schema.events.name = .ok relation
  named : ∀ name ∈ Schema.countColumn :: Schema.sampleColumns, relation.columns.any (·.name = name)

namespace HasEvents

variable {table : RecordingTable} {relation : Relation} (has : table.HasEvents relation)
  {event : UInt32}
include has

theorem readColumns : ((Schema.countColumn :: Schema.sampleColumns).find? fun name =>
    !relation.columns.any (·.name = name)) = none := by
  rw [List.find?_eq_none]
  intro name member
  simp [has.named name member]

/-- An event for which there is no row is missing. -/
theorem readEvent_missing (none : relation.rows.find? event.toNat = none) :
    table.readEvent event = .error (.missingEvent event) := by
  rw [readEvent, has.found]
  dsimp only
  rw [has.readColumns, none]

/-- What is read of an event is decided by the cells of its row. -/
theorem readEvent_of_cells {cells : List Cell}
    (row : relation.rows.find? event.toNat = some cells) : table.readEvent event =
      match readRow cells with
      | .error reason => .error (.store reason)
      | .ok (.negSucc below, _) =>
        .error (.malformedEvent event Schema.countColumn s!"negative count -{below + 1}")
      | .ok (.ofNat count, blobs) =>
        match checkBlobs event count 0 Schema.sampleColumns blobs with
        | .error reason => .error reason
        | .ok () => .ok (batchOfBlobs event blobs) := by
  rw [readEvent, has.found]
  dsimp only
  rw [has.readColumns]
  exact row ▸ rfl

end HasEvents

/-- A recording holds a batch for an event: in a row under its number there are, first in the
columns of a recording, the count of the photoelectrons and then their columns. -/
structure Recorded (table : RecordingTable) (event : UInt32) (batch : PhotoelectronBatch) :
    Prop where
  labelled : batch.event = event
  aligned : batch.Aligned
  row : ∃ relation further, table.database.get Schema.events.name = .ok relation ∧
    (∀ name ∈ Schema.countColumn :: Schema.sampleColumns, relation.columns.any (·.name = name)) ∧
    relation.rows.find? event.toNat = some (eventCells batch ++ further)

/-- What is read of an event is the batch that the recording holds for it. -/
theorem readEvent_eq_ok_iff {table : RecordingTable} {event : UInt32}
    {batch : PhotoelectronBatch} :
    table.readEvent event = .ok batch ↔ table.Recorded event batch := by
  constructor
  · intro read
    unfold readEvent at read
    split at read
    · simp at read
    rename_i relation found
    split at read
    · simp at read
    rename_i named
    split at read
    · simp at read
    rename_i cells row
    split at read
    · simp at read
    · simp at read
    rename_i count blobs readable
    split at read
    · simp at read
    rename_i checked
    obtain ⟨ten, further, rfl⟩ := readRow_eq_ok_iff.mp readable
    have sizes := (checkBlobs_eq_ok_iff (Nat.le_of_eq ten)).mp checked
    obtain ⟨columns, size⟩ : sampleBlobs (batchOfBlobs event blobs) = blobs ∧
        (batchOfBlobs event blobs).size = count := sampleBlobs_batchOfBlobs ten sizes
    obtain rfl := Except.ok.inj read
    refine ⟨event_batchOfBlobs, aligned_batchOfBlobs checked, relation, further, found, ?_, ?_⟩
    · simpa [List.find?_eq_none] using named
    · rw [row, eventCells, columns, size]
      rfl
  · rintro ⟨rfl, aligned, relation, further, found, named, row⟩
    have has : table.HasEvents relation := ⟨found, named⟩
    have readable : readRow (eventCells batch ++ further) =
        .ok (Int.ofNat batch.size, sampleBlobs batch) := readRow_eq_ok_iff.mpr ⟨rfl, further, rfl⟩
    have checked : checkBlobs batch.event batch.size 0 Schema.sampleColumns (sampleBlobs batch) =
        .ok () := checkBlobs_sampleBlobs_iff.mpr ⟨aligned, rfl⟩
    rw [has.readEvent_of_cells row, readable]
    dsimp only
    rw [checked, batchOfBlobs_sampleBlobs]

end PhotonFerry.RecordingTable
