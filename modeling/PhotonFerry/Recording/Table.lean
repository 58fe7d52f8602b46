import PhotonFerry.Journal
import PhotonFerry.Recording.Database
import PhotonFerry.Sample.Photoelectron
import PhotonFerry.Wire.Column
/-!
# Recordings

A recording holds the photoelectrons of events by event number, and the
positions of the backend's photomultipliers. Whatever a file holds, reading it
gives a sound batch or an error: `loadEvent` checks the kind of every cell and
the length of every column before it changes anything.
-/

namespace PhotonFerry

/-- What ends a run that replays a recording. -/
inductive RecordingError where
  | store (reason : Recording.StoreError)
  | missingTable (name : String)
  | missingEvent (event : UInt32)
  | outOfOrder (requested next : UInt32)
  | malformedEvent (event : UInt32) (column reason : String)
  | malformedPositions (reason : String)
  deriving DecidableEq, Repr

/-- The report of an error. -/
def RecordingError.message : RecordingError → String
  | store reason => s!"SQLite error: {reason.message}"
  | missingTable name => s!"Replay file has no '{name}' table"
  | missingEvent event => s!"Event {event.toNat} not found in replay file"
  | outOfOrder requested next =>
    s!"Event {requested.toNat} requested out of order, next recorded event is {next.toNat}"
  | malformedEvent event column reason =>
    s!"Event {event.toNat}: column '{column}' is malformed: {reason}"
  | malformedPositions reason => s!"PMT position table is malformed: {reason}"

/-- An open recording. -/
structure RecordingTable where
  database : Recording.Database
  writable : Bool

namespace RecordingTable

open Recording

/-- An empty recording that is kept in memory. -/
def inMemory : RecordingTable := ⟨Schema.empty, true⟩

/-- Open a file for reading. It must have both tables under their exact names. -/
def openFile {σ : Type} (path : String) (file : StoredFile) :
    Action σ (Except RecordingError RecordingTable) :=
  match file with
  | .unreachable reason => return .error (.store reason)
  | .absent => return .error (.store (.cannotOpen path))
  | .folder => return .error (.store .diskFailure)
  | .foreign => return .error (.store .notADatabase)
  | .database contents =>
    match Schema.required.find? fun relation => !contents.hasTable relation.name with
    | some relation => return .error (.missingTable relation.name)
    | none => do
      Action.debug .recording s!"Opened replay file {path}"
      return .ok ⟨contents, false⟩

/-- Open a file for writing; what is missing is added. -/
def create (file : StoredFile) : Except RecordingError RecordingTable :=
  let complete (contents : Database) := Schema.required.foldl Database.ensure contents
  match file with
  | .unreachable reason => .error (.store reason)
  | .absent => .ok ⟨complete {}, true⟩
  | .folder => .error (.store .diskFailure)
  | .foreign => .error (.store .notADatabase)
  | .database contents => .ok ⟨complete contents, true⟩

/-- The relation to be changed by a statement. -/
def target (table : RecordingTable) (name : String) : Except StoreError Relation := do
  let relation ← table.database.get name
  if relation.isView then .error (.modifiesView relation.name)
  else .ok relation

/-- The columns of an event in stored order. -/
def sampleBlobs (batch : PhotoelectronBatch) : List ByteArray :=
  [Wire.columnFrame batch.channel, Wire.columnFrame batch.time, Wire.columnFrame batch.wavelength,
    Wire.columnFrame batch.dx, Wire.columnFrame batch.dy, Wire.columnFrame batch.dz,
    Wire.columnFrame batch.polx, Wire.columnFrame batch.poly, Wire.columnFrame batch.polz,
    Wire.columnFrame batch.flags]

/-- The cells of an event in stored order. -/
def eventCells (batch : PhotoelectronBatch) : List Cell :=
  .integer batch.size :: (sampleBlobs batch).map Cell.blob

/-- Store an event in place of one with the same number. -/
def insertEvent (batch : PhotoelectronBatch) (table : RecordingTable) :
    Except StoreError RecordingTable := do
  let relation ← table.target Schema.events.name
  relation.checkColumns Schema.events
  if table.writable then
    let changed ← relation.replace batch.event.toNat (eventCells batch)
    .ok { table with database := table.database.put changed }
  else .error .readOnly

/-- Add positions with the numbers from `number` on. -/
def insertFrom (number : Nat) (relation : Relation) :
    List (Point Float) → Except StoreError Relation
  | [] => .ok relation
  | point :: rest => do
    let changed ← relation.insert (.integer number)
      [Cell.ofFloat point.x, Cell.ofFloat point.y, Cell.ofFloat point.z]
    insertFrom (number + 1) changed rest

/-- Store positions in place of all earlier ones, or nothing at all. That a column is
missing is found out when the earlier ones are deleted already. -/
def insertPositions (points : List (Point Float)) (table : RecordingTable) :
    Except StoreError RecordingTable := do
  let relation ← table.target Schema.positions.name
  if table.writable then
    relation.checkColumns Schema.positions
    let changed ← insertFrom 0 { relation with rows := [] } points
    .ok { table with database := table.database.put changed }
  else .error .readOnly

/-- Run a change; a refused change leaves the recording as it was. -/
def changeBy (change : RecordingTable → Except StoreError RecordingTable) :
    Action RecordingTable (Except RecordingError Unit) := fun table =>
  match change table with
  | .ok changed => ⟨.ok (), changed, []⟩
  | .error reason => ⟨.error (.store reason), table, []⟩

/-- Store one event. -/
def storeEvent (batch : PhotoelectronBatch) : Action RecordingTable (Except RecordingError Unit) :=
  changeBy (insertEvent batch)

/-- Store the positions of the backend's photomultipliers. -/
def storePositions (points : List (Point Float)) :
    Action RecordingTable (Except RecordingError Unit) := do
  match ← changeBy (insertPositions points) with
  | .error reason => return .error reason
  | .ok () =>
    Action.info .recording s!"Stored {points.length} PMT positions"
    return .ok ()

/-- The number of rows of a relation. -/
def rowCount (table : RecordingTable) (name : String) : Except RecordingError Nat :=
  match table.database.get name with
  | .ok relation => .ok relation.rows.length
  | .error reason => .error (.store reason)

/-- The number of recorded events. -/
def eventCount (table : RecordingTable) : Except RecordingError Nat :=
  table.rowCount Schema.events.name

/-- The number of recorded positions. -/
def positionCount (table : RecordingTable) : Except RecordingError Nat :=
  table.rowCount Schema.positions.name

/-- The bytes of a cell in a column. -/
def blobOf (index : Nat) (column : String) : Cell → Except StoreError ByteArray
  | .blob value => .ok value
  | other => .error (.columnType other.kindName index column)

/-- The integer in a cell of a column. -/
def integerOf (index : Nat) (column : String) : Cell → Except StoreError Int
  | .integer value => .ok value
  | other => .error (.columnType other.kindName index column)

/-- The number in a cell of a column. -/
def realOf (index : Nat) (column : String) : Cell → Except StoreError Float
  | .integer value => .ok (Float.ofInt value)
  | .real value => .ok value
  | other => .error (.columnType other.kindName index column)

/-- The bytes of consecutive cells, the first of which stands in column `index`. There is
a cell for every column; what stands behind the columns is not looked at. -/
def blobsFrom (index : Nat) : List String → List Cell → Except StoreError (List ByteArray)
  | [], _ => .ok []
  | _ :: _, [] => .error .datatypeMismatch
  | column :: columns, cell :: cells => do
    let blob ← blobOf index column cell
    let later ← blobsFrom (index + 1) columns cells
    .ok (blob :: later)

/-- The count and the sample columns of a row. -/
def readRow : List Cell → Except StoreError (Int × List ByteArray)
  | countCell :: cells => do
    let count ← integerOf 0 Schema.countColumn countCell
    let blobs ← blobsFrom 1 Schema.sampleColumns cells
    .ok (count, blobs)
  | [] => .error .datatypeMismatch

/-- The statement that selects an event. -/
def eventStatement : String :=
  "SELECT " ++ ", ".intercalate (Schema.countColumn :: Schema.sampleColumns)
    ++ "\n             FROM pe_events WHERE event_id = ?1"

/-- Where in the statement a column is named. -/
def columnOffset (column : String) : Nat :=
  let before := (Schema.countColumn :: Schema.sampleColumns).takeWhile (· ≠ column)
  (before.map fun name => name.length + 2).foldr (· + ·) 0 + "SELECT ".length

/-- Check that consecutive sample columns hold `count` entries each. -/
def checkBlobs (event : UInt32) (count index : Nat) :
    List String → List ByteArray → Except RecordingError Unit
  | column :: columns, blob :: blobs =>
    match Wire.checkLength blob index count with
    | .error reason => .error (.malformedEvent event column reason.message)
    | .ok () => checkBlobs event count (index + 1) columns blobs
  | _, _ => .ok ()

/-- Blobs pass the check exactly when they all have the right number of bytes. -/
theorem checkBlobs_eq_ok_iff {event : UInt32} {count index : Nat} {columns : List String}
    {blobs : List ByteArray} (named : blobs.length ≤ columns.length) :
    checkBlobs event count index columns blobs = .ok () ↔
      ∀ blob ∈ blobs, blob.size = count * Wire.wordSize := by
  induction blobs generalizing index columns with
  | nil => cases columns <;> simp [checkBlobs]
  | cons blob blobs step =>
    cases columns with
    | nil => simp at named
    | cons column columns =>
      have first : Wire.checkLength blob index count = .ok () ↔ _ := Wire.checkLength_eq_ok_iff
      have later : checkBlobs event count (index + 1) columns blobs = .ok () ↔ _ :=
        step (by simpa using named)
      rw [List.forall_mem_cons, ← first, ← later, checkBlobs]
      split <;> simp [*]

/-- The photoelectrons of an event in sample columns whose lengths have been checked. -/
def batchOfBlobs (event : UInt32) : List ByteArray → PhotoelectronBatch
  | [channel, time, wavelength, dx, dy, dz, polx, poly, polz, flags] =>
    { event := event
      channel := Wire.columnOf channel
      time := Wire.columnOf time
      wavelength := Wire.columnOf wavelength
      dx := Wire.columnOf dx
      dy := Wire.columnOf dy
      dz := Wire.columnOf dz
      polx := Wire.columnOf polx
      poly := Wire.columnOf poly
      polz := Wire.columnOf polz
      flags := Wire.columnOf flags }
  | _ => { event := event }

/-- Checked columns are of one length. -/
theorem aligned_batchOfBlobs {event : UInt32} {count : Nat} {blobs : List ByteArray}
    (checked : checkBlobs event count 0 Schema.sampleColumns blobs = .ok ()) :
    (batchOfBlobs event blobs).Aligned := by
  unfold batchOfBlobs
  split
  · have sizes := (checkBlobs_eq_ok_iff (Nat.le_refl _)).mp checked
    simp only [List.forall_mem_cons] at sizes
    simp [PhotoelectronBatch.Aligned, PhotoelectronBatch.singles, PhotoelectronBatch.size,
      Wire.size_columnOf, sizes]
  · exact PhotoelectronBatch.aligned_clear (PhotoelectronBatch.empty.setEvent event)

/-- The photoelectrons recorded for an event. -/
def readEvent (table : RecordingTable) (event : UInt32) :
    Except RecordingError PhotoelectronBatch :=
  match table.database.get Schema.events.name with
  | .error reason => .error (.store reason)
  | .ok relation =>
    match (Schema.countColumn :: Schema.sampleColumns).find? fun name =>
        !relation.columns.any (·.name = name) with
    | some column =>
      .error (.store (.noSuchColumn column eventStatement (columnOffset column)))
    | none =>
      match relation.rows.find? event.toNat with
      | none => .error (.missingEvent event)
      | some cells =>
        match readRow cells with
        | .error reason => .error (.store reason)
        | .ok (.negSucc below, _) =>
          .error (.malformedEvent event Schema.countColumn
            s!"negative count -{below + 1}")
        | .ok (.ofNat count, blobs) =>
          match checkBlobs event count 0 Schema.sampleColumns blobs with
          | .error reason => .error reason
          | .ok () => .ok (batchOfBlobs event blobs)

/-- Load an event into a batch. A refused event leaves the batch as it was. -/
def loadEvent (table : RecordingTable) (event : UInt32) (out : PhotoelectronBatch) :
    Except RecordingError Unit × PhotoelectronBatch :=
  match table.readEvent event with
  | .ok batch => (.ok (), batch)
  | .error reason => (.error reason, out)

/-- A batch stays aligned, whatever was recorded. -/
theorem aligned_loadEvent {table : RecordingTable} {event : UInt32} {out : PhotoelectronBatch}
    (aligned : out.Aligned) : (table.loadEvent event out).2.Aligned := by
  unfold loadEvent
  split
  · rename_i batch read
    unfold readEvent at read
    repeat' split at read
    all_goals simp only [reduceCtorEq, Except.ok.injEq] at read
    rename_i checked
    exact read ▸ aligned_batchOfBlobs checked
  · exact aligned

/-- The number and the point in a row of positions. -/
def readPosition (key : Int) : List Cell → Except StoreError (Int × Point Float)
  | [x, y, z] => do
    let x ← realOf 1 "x" x
    let y ← realOf 2 "y" y
    let z ← realOf 3 "z" z
    .ok (key, ⟨x, y, z⟩)
  | _ => .error .datatypeMismatch

/-- The points of consecutive rows, whose numbers must run from `number` on. -/
def consecutive (number : Nat) : List (Int × Point Float) →
    Except RecordingError (List (Point Float))
  | [] => .ok []
  | (key, point) :: rest =>
    if key = number then
      match consecutive (number + 1) rest with
      | .ok points => .ok (point :: points)
      | .error reason => .error reason
    else .error (.malformedPositions s!"expected pmt_id {number}, found {key}")

/-- The recorded positions in the order of their numbers, which run from 0
without a gap. -/
def readPositions (table : RecordingTable) : Except RecordingError (List (Point Float)) :=
  match table.database.get Schema.positions.name with
  | .error reason => .error (.store reason)
  | .ok relation =>
    match relation.rows.mapM fun (key, cells) => readPosition key cells with
    | .error reason => .error (.store reason)
    | .ok [] => .error (.malformedPositions "no PMT positions")
    | .ok rows => consecutive 0 rows

end RecordingTable

end PhotonFerry
