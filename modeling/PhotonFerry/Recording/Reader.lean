import PhotonFerry.Recording.Table
/-!
# Reading a recording in order

A reader delivers the recorded events one after the other, starting with event
0. A call that fails moves nothing: the same event is next, and the receiving
batch is as it was.
-/

namespace PhotonFerry

/-- A recording that is being read. -/
structure RecordingReader where
  table : RecordingTable
  /-- The event that the next read delivers. -/
  nextEvent : UInt32 := 0
  /-- The positions, once they were read. -/
  positions : Option (List (Point Float)) := none

namespace RecordingReader

/-- Start at event 0 of a recording. -/
def ofTable (table : RecordingTable) : RecordingReader := { table }

/-- Open a file and start at its event 0. -/
def openFile {σ : Type} (path : String) (file : Recording.StoredFile) :
    Action σ (Except RecordingError RecordingReader) := do
  match ← RecordingTable.openFile path file with
  | .error reason => return .error reason
  | .ok table =>
    match table.eventCount with
    | .error reason => return .error reason
    | .ok count =>
      Action.info .reader s!"Replaying {count} events from {path}"
      return .ok (ofTable table)

/-- Deliver the next event. -/
def readNext (out : PhotoelectronBatch) :
    Action RecordingReader (Except RecordingError UInt32 × PhotoelectronBatch) := do
  let reader ← Action.get
  let event := reader.nextEvent
  match reader.table.loadEvent event out with
  | (.error reason, out) => return (.error reason, out)
  | (.ok (), batch) =>
    Action.set { reader with nextEvent := event + 1 }
    Action.debug .reader s!"Replayed event {event.toNat} ({batch.size} PE)"
    return (.ok event, batch)

/-- Deliver the next event if it is the one that is asked for. -/
def readRequested (event : UInt32) (out : PhotoelectronBatch) :
    Action RecordingReader (Except RecordingError UInt32 × PhotoelectronBatch) := do
  let reader ← Action.get
  if event = reader.nextEvent then readNext out
  else return (.error (.outOfOrder event reader.nextEvent), out)

/-- A batch stays aligned, whatever is delivered into it. -/
theorem aligned_readNext {out : PhotoelectronBatch} (reader : RecordingReader)
    (aligned : out.Aligned) : (readNext out reader).value.2.Aligned := by
  have loaded : (reader.table.loadEvent reader.nextEvent out).2.Aligned :=
    RecordingTable.aligned_loadEvent aligned
  simp only [readNext, Action.get_bind]
  cases found : reader.table.loadEvent reader.nextEvent out with
  | mk result batch => cases result <;> simpa [found] using loaded

theorem aligned_readRequested {event : UInt32} {out : PhotoelectronBatch}
    (reader : RecordingReader) (aligned : out.Aligned) :
    (readRequested event out reader).value.2.Aligned := by
  simp only [readRequested, Action.get_bind]
  split
  · exact aligned_readNext reader aligned
  · exact aligned

/-- The recorded positions, which are read once. -/
def loadPositions : Action RecordingReader (Except RecordingError (List (Point Float))) := do
  let reader ← Action.get
  match reader.positions with
  | some positions => return .ok positions
  | none =>
    match reader.table.readPositions with
    | .error reason => return .error reason
    | .ok positions =>
      Action.debug .reader s!"Loaded {positions.length} backend PMT positions"
      Action.set { reader with positions := some positions }
      return .ok positions

/-- Say how far the reading came. -/
def finish : Action RecordingReader Unit := do
  let reader ← Action.get
  Action.info .reader s!"Replay finished after {reader.nextEvent.toNat} events"

end RecordingReader

end PhotonFerry
