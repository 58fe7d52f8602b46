import PhotonFerry.Backend.Basic
import PhotonFerry.Proofs.Recording.Rows
/-!
# Recordings are read in order

Whoever reads a recording asks for the next event, or for the event of some photons.
Whatever is asked, and whatever the recording holds, the events that are delivered are
0, 1, 2 and so on, each once and as it was recorded. A call that is refused has no effect.
-/

namespace PhotonFerry

/-- What a reader can be asked for. -/
inductive ReaderRequest where
  | next
  /-- The event of the photons. -/
  | propagate (photons : PhotonBatch)

/-- What a reader says about a request. -/
inductive ReaderAnswer where
  | read (result : Except RecordingError UInt32)
  | propagated (result : Except RunError Outcome)

/-- Whether an event was delivered. -/
def ReaderAnswer.delivers : ReaderAnswer → Bool
  | read (.ok _) | propagated (.ok _) => true
  | read (.error _) | propagated (.error _) => false

namespace ReaderRequest

/-- Put a request to a reader, with a batch that receives the event. -/
def ask (request : ReaderRequest) (held : PhotoelectronBatch) :
    Action RecordingReader (ReaderAnswer × PhotoelectronBatch) :=
  match request with
  | next => do
    let (result, batch) ← RecordingReader.readNext held
    return (.read result, batch)
  | propagate photons => do
    let (result, batch) ← Backend.propagate photons held
    return (.propagated result, batch)

/-- The request can be answered with the event. -/
def AsksFor (event : UInt32) : ReaderRequest → Prop
  | next => True
  | propagate photons => photons.event = event

/-- How a request is answered when the reading ends with a result. -/
def answer (result : Except RecordingError UInt32) : ReaderRequest → ReaderAnswer
  | next => .read result
  | propagate _ => .propagated <|
    match result with
    | .ok _ => .ok .complete
    | .error reason => .error (.recording reason)

@[simp] theorem delivers_answer_ok {event : UInt32} {request : ReaderRequest} :
    (request.answer (.ok event)).delivers = true := by
  cases request <;> rfl

@[simp] theorem delivers_answer_error {reason : RecordingError} {request : ReaderRequest} :
    (request.answer (.error reason)).delivers = false := by
  cases request <;> rfl

end ReaderRequest

/-- One call of a reader. -/
structure ReaderCall where
  request : ReaderRequest
  /-- The batch that is to receive the event, before the call. -/
  held : PhotoelectronBatch
  answer : ReaderAnswer
  /-- The same batch after the call. -/
  received : PhotoelectronBatch
  /-- The event that is next after the call. -/
  next : UInt32

namespace ReaderCall

/-- The call that puts a request to a reader. -/
def of (request : ReaderRequest) (held : PhotoelectronBatch) (reader : RecordingReader) :
    ReaderCall :=
  let done := request.ask held reader
  ⟨request, held, done.value.1, done.value.2, done.state.nextEvent⟩

/-- Whether the call succeeded. -/
def succeeds (call : ReaderCall) : Bool := call.answer.delivers

section Steps

variable {request : ReaderRequest} {reader : RecordingReader} (held : PhotoelectronBatch)

/-- A request that can be answered with the next event is a reading of that. -/
theorem ask_of_asksFor (asks : request.AsksFor reader.nextEvent) :
    (request.ask held reader).value =
        (request.answer (RecordingReader.readNext held reader).value.1,
          (RecordingReader.readNext held reader).value.2) ∧
      (request.ask held reader).state = (RecordingReader.readNext held reader).state := by
  cases request with
  | next => exact ⟨rfl, rfl⟩
  | propagate photons =>
    have here : photons.event = reader.nextEvent := asks
    simp only [ReaderRequest.ask, Backend.propagate, RecordingReader.propagate,
      RecordingReader.readRequested, Action.bind_value, Action.bind_state, Action.get_bind, here,
      if_true, ReaderRequest.answer]
    rcases (RecordingReader.readNext held reader).value with ⟨reason | event, batch⟩
    · simp
    · simp

/-- The next event is delivered as it was recorded, and the one behind it is next then. -/
theorem of_recorded {batch : PhotoelectronBatch} (asks : request.AsksFor reader.nextEvent)
    (recorded : reader.table.Recorded reader.nextEvent batch) :
    of request held reader =
        ⟨request, held, request.answer (.ok reader.nextEvent), batch, reader.nextEvent + 1⟩ ∧
      (request.ask held reader).state = { reader with nextEvent := reader.nextEvent + 1 } := by
  have loaded : reader.table.loadEvent reader.nextEvent held = (.ok (), batch) := by
    rw [RecordingTable.loadEvent, RecordingTable.readEvent_eq_ok_iff.mpr recorded]
  obtain ⟨value, state⟩ := ask_of_asksFor held asks
  rw [of, value, state]
  simp only [RecordingReader.readNext, Action.get_bind, loaded]
  exact ⟨rfl, rfl⟩

/-- An event that cannot be read is refused, for the reason for which it cannot. -/
theorem of_unreadable {reason : RecordingError} (asks : request.AsksFor reader.nextEvent)
    (unreadable : reader.table.readEvent reader.nextEvent = .error reason) :
    of request held reader =
        ⟨request, held, request.answer (.error reason), held, reader.nextEvent⟩ ∧
      (request.ask held reader).state = reader := by
  have loaded : reader.table.loadEvent reader.nextEvent held = (.error reason, held) := by
    rw [RecordingTable.loadEvent, unreadable]
  obtain ⟨value, state⟩ := ask_of_asksFor held asks
  rw [of, value, state]
  simp only [RecordingReader.readNext, Action.get_bind, loaded]
  exact ⟨rfl, rfl⟩

/-- So is every event but the next one, even if it is recorded. -/
theorem of_outOfOrder {photons : PhotonBatch} (other : photons.event ≠ reader.nextEvent) :
    of (.propagate photons) held reader = ⟨.propagate photons, held,
        .propagated (.error (.recording (.outOfOrder photons.event reader.nextEvent))), held,
        reader.nextEvent⟩ ∧
      ((ReaderRequest.propagate photons).ask held reader).state = reader := by
  simp only [of, ReaderRequest.ask, Backend.propagate, RecordingReader.propagate,
    RecordingReader.readRequested, Action.bind_value, Action.bind_state, Action.get_bind, other,
    if_false]
  exact ⟨rfl, rfl⟩

end Steps

/-- What must come of a call when it is the turn of an event. -/
structure InTurn (table : RecordingTable) (event : UInt32) (call : ReaderCall) : Prop where
  /-- It succeeds when the request can be answered with the event, and that is recorded. -/
  succeeds_iff : call.succeeds ↔ call.request.AsksFor event ∧ ∃ batch, table.Recorded event batch
  /-- Then it delivers the event, and the one behind it is next. -/
  delivered : call.succeeds → call.answer = call.request.answer (.ok event) ∧
    table.Recorded event call.received ∧ call.next.toNat = event.toNat + 1
  /-- A call for another event is refused, whether that is recorded or not. -/
  outOfOrder : ∀ photons, call.request = .propagate photons → photons.event ≠ event →
    call.answer = .propagated (.error (.recording (.outOfOrder photons.event event)))
  /-- So is a call for an event that cannot be read. -/
  unreadable : ∀ reason, call.request.AsksFor event → table.readEvent event = .error reason →
    call.answer = call.request.answer (.error reason)
  /-- A call that is refused leaves everything as it was. -/
  refused : ¬ call.succeeds → call.received = call.held ∧ call.next = event

section Turns

variable {table : RecordingTable} {event : UInt32} {request : ReaderRequest}
  (held : PhotoelectronBatch)

theorem inTurn_of_recorded {batch : PhotoelectronBatch} {next : UInt32}
    (asks : request.AsksFor event) (recorded : table.Recorded event batch)
    (behind : next.toNat = event.toNat + 1) :
    (ReaderCall.mk request held (request.answer (.ok event)) batch next).InTurn table event where
  succeeds_iff := iff_of_true (by simp [succeeds]) ⟨asks, batch, recorded⟩
  delivered _ := ⟨rfl, recorded, behind⟩
  outOfOrder := by
    rintro photons rfl other
    exact absurd asks other
  unreadable reason _ unreadable := by
    rw [RecordingTable.readEvent_eq_ok_iff.mpr recorded] at unreadable
    exact nomatch unreadable
  refused fails := absurd (by simp [succeeds]) fails

theorem inTurn_of_unreadable {reason : RecordingError} (asks : request.AsksFor event)
    (unreadable : table.readEvent event = .error reason) :
    (ReaderCall.mk request held (request.answer (.error reason)) held event).InTurn
      table event where
  succeeds_iff := by
    simp [succeeds, ← RecordingTable.readEvent_eq_ok_iff, unreadable]
  delivered success := by simp [succeeds] at success
  outOfOrder := by
    rintro photons rfl other
    exact absurd asks other
  unreadable other _ again := by
    rw [unreadable, Except.error.injEq] at again
    rw [again]
  refused _ := ⟨rfl, rfl⟩

theorem inTurn_of_outOfOrder {photons : PhotonBatch} (other : photons.event ≠ event) :
    (ReaderCall.mk (.propagate photons) held
      (.propagated (.error (.recording (.outOfOrder photons.event event)))) held event).InTurn
        table event where
  succeeds_iff := by simp [succeeds, ReaderAnswer.delivers, ReaderRequest.AsksFor, other]
  delivered success := by simp [succeeds, ReaderAnswer.delivers] at success
  outOfOrder := by
    intro asked same _
    cases same
    rfl
  unreadable _ asks := absurd asks other
  refused _ := ⟨rfl, rfl⟩

end Turns

end ReaderCall

/-- The calls of a reader of a recording, in their order, and the reader that is left. In between
it may be asked for the recorded positions, and be told that a run is over. -/
inductive Reads (table : RecordingTable) : List ReaderCall → RecordingReader → Prop where
  | opened : Reads table [] (.ofTable table)
  | call {calls reader} (earlier : Reads table calls reader) (request : ReaderRequest)
      (held : PhotoelectronBatch) :
      Reads table (calls ++ [.of request held reader]) (request.ask held reader).state
  | positions {calls reader} (earlier : Reads table calls reader) :
      Reads table calls (Backend.positions reader).state
  | finish {calls reader} (earlier : Reads table calls reader) :
      Reads table calls (Backend.endRun reader).state

/-- The calls that succeeded. -/
def deliveries (calls : List ReaderCall) : List ReaderCall :=
  calls.filter ReaderCall.succeeds

namespace RecordingReader

section Runs

variable {table : RecordingTable} {reader : RecordingReader} {calls : List ReaderCall}

/-- Where a reader of a recording stands when it is the turn of an event. -/
structure StandsAt (table : RecordingTable) (turn : Nat) (reader : RecordingReader) : Prop where
  source : reader.table = table
  next : reader.nextEvent.toNat = turn

/-- A call comes out as it must, and counts if it succeeds. -/
theorem StandsAt.ask {turn : Nat} (stands : reader.StandsAt table turn) (request : ReaderRequest)
    (held : PhotoelectronBatch)
    (fewer : turn + (deliveries [.of request held reader]).length < twoTo 32) :
    (ReaderCall.of request held reader).InTurn table (.ofNat turn) ∧
      (request.ask held reader).state.StandsAt table
        (turn + (deliveries [.of request held reader]).length) := by
  obtain ⟨rfl, rfl⟩ := stands
  rw [UInt32.ofNat_toNat]
  by_cases asks : request.AsksFor reader.nextEvent
  · cases read : reader.table.readEvent reader.nextEvent with
    | ok batch =>
      have recorded := RecordingTable.readEvent_eq_ok_iff.mp read
      obtain ⟨made, left⟩ := ReaderCall.of_recorded held asks recorded
      have one : deliveries [ReaderCall.of request held reader] = [.of request held reader] := by
        simp [deliveries, made, ReaderCall.succeeds]
      rw [one, List.length_singleton] at fewer ⊢
      have behind : (reader.nextEvent + 1).toNat = reader.nextEvent.toNat + 1 := by
        rw [UInt32.toNat_add]
        exact Nat.mod_eq_of_lt fewer
      rw [made, left]
      exact ⟨ReaderCall.inTurn_of_recorded held asks recorded behind, rfl, behind⟩
    | error reason =>
      obtain ⟨made, left⟩ := ReaderCall.of_unreadable held asks read
      have none : deliveries [ReaderCall.of request held reader] = [] := by
        simp [deliveries, made, ReaderCall.succeeds]
      rw [none, made, left]
      exact ⟨ReaderCall.inTurn_of_unreadable held asks read, rfl, rfl⟩
  · cases request with
    | next => exact absurd trivial asks
    | propagate photons =>
      obtain ⟨made, left⟩ := ReaderCall.of_outOfOrder held asks
      have none : deliveries [ReaderCall.of (.propagate photons) held reader] = [] := by
        simp [deliveries, made, ReaderCall.succeeds, ReaderAnswer.delivers]
      rw [none, made, left]
      exact ⟨ReaderCall.inTurn_of_outOfOrder held asks, rfl, rfl⟩

/-- Asking for the positions keeps them, and changes nothing else. -/
theorem StandsAt.positions {turn : Nat} (stands : reader.StandsAt table turn) :
    (Backend.positions reader).state.StandsAt table turn := by
  have kept : (loadPositions reader).state.StandsAt table turn := by
    simp only [loadPositions, Action.get_bind]
    cases reader.positions with
    | some points => exact stands
    | none =>
      cases reader.table.readPositions with
      | error reason => exact stands
      | ok points => exact ⟨stands.source, stands.next⟩
  simp only [Backend.positions, runPositions, Action.bind_state]
  cases (loadPositions reader).value with
  | ok points => exact kept
  | error reason => exact kept

end Runs

end RecordingReader

section Runs

variable {table : RecordingTable} {reader : RecordingReader} {calls : List ReaderCall}

theorem deliveries_concat (calls : List ReaderCall) (call : ReaderCall) :
    deliveries (calls ++ [call]) = deliveries calls ++ deliveries [call] :=
  List.filter_append ..

theorem deliveries_lt_of_concat {call : ReaderCall}
    (fewer : (deliveries (calls ++ [call])).length < twoTo 32) :
    (deliveries calls).length < twoTo 32 := by
  rw [deliveries_concat, List.length_append] at fewer
  exact Nat.lt_of_le_of_lt (Nat.le_add_right ..) fewer

/-- The event that is next is the number of calls that succeeded. -/
theorem Reads.standsAt (reads : Reads table calls reader)
    (fewer : (deliveries calls).length < twoTo 32) :
    reader.StandsAt table (deliveries calls).length := by
  induction reads with
  | opened => exact ⟨rfl, rfl⟩
  | call earlier request held step =>
    have before := step (deliveries_lt_of_concat fewer)
    rw [deliveries_concat, List.length_append] at fewer ⊢
    exact (before.ask request held fewer).2
  | positions earlier step => exact (step fewer).positions
  | finish earlier step => exact step fewer

/-- Every call comes out as it must after the ones before it. -/
theorem Reads.inTurn (reads : Reads table calls reader)
    (fewer : (deliveries calls).length < twoTo 32) {earlier later : List ReaderCall}
    {call : ReaderCall} (split : calls = earlier ++ call :: later) :
    call.InTurn table (.ofNat (deliveries earlier).length) := by
  induction reads generalizing later with
  | opened => simp at split
  | call before request held step =>
    have shorter := deliveries_lt_of_concat fewer
    rcases split_concat split with ⟨rfl, rfl, -⟩ | ⟨rest, whole, -⟩
    · rw [deliveries_concat, List.length_append] at fewer
      exact ((before.standsAt shorter).ask request held fewer).1
    · exact step shorter whole
  | positions before step => exact step fewer split
  | finish before step => exact step fewer split

/-- The events that were delivered are consecutive, from 0 on. -/
theorem Reads.numbers (reads : Reads table calls reader)
    (fewer : (deliveries calls).length < twoTo 32) :
    (deliveries calls).map (·.received.event.toNat) = List.range (deliveries calls).length := by
  induction reads with
  | opened => rfl
  | @call calls reader before request held step =>
    have shorter := deliveries_lt_of_concat fewer
    have turn := (before.call request held).inTurn fewer rfl
    rw [deliveries_concat]
    cases success : (ReaderCall.of request held reader).succeeds with
    | false =>
      have none : deliveries [ReaderCall.of request held reader] = [] := by
        simp [deliveries, success]
      rw [none, List.append_nil]
      exact step shorter
    | true =>
      have one : deliveries [ReaderCall.of request held reader] = [.of request held reader] := by
        simp [deliveries, success]
      have number : (ReaderCall.of request held reader).received.event.toNat =
          (deliveries calls).length := by
        rw [(turn.delivered success).2.1.labelled]
        exact UInt32.toNat_ofNat_of_lt' shorter
      rw [one, List.map_append, step shorter, List.length_append, List.length_singleton,
        List.range_succ, List.map_singleton, number]
  | positions before step => exact step fewer
  | finish before step => exact step fewer

/-- Whatever is asked of a reader, and with whatever success, its recording is read in order. The
events that are delivered are 0, 1, 2 and so on, and the number of them is the event that is next.
Each call delivers the event whose turn it is, as the recording holds it, or is refused and
changes nothing. -/
theorem Reads.delivers_in_order (reads : Reads table calls reader)
    (fewer : (deliveries calls).length < twoTo 32) :
    reader.nextEvent.toNat = (deliveries calls).length ∧
      (deliveries calls).map (·.received.event.toNat) = List.range (deliveries calls).length ∧
      ∀ earlier call later, calls = earlier ++ call :: later →
        call.InTurn table (.ofNat (deliveries earlier).length) :=
  ⟨(reads.standsAt fewer).next, reads.numbers fewer, fun _ _ _ => reads.inTurn fewer⟩

/-- A recording of one event: event 1 is refused at first, event 0 is delivered, and event 1 is
refused again, since it is not there. -/
theorem Reads.delivers_in_order_single :
    let batch : PhotoelectronBatch := PhotoelectronBatch.empty.push
      ⟨7, ⟨0x41200000⟩, ⟨0x43c80000⟩, ⟨⟨0⟩, ⟨0⟩, ⟨0x3f800000⟩⟩, ⟨⟨0⟩, ⟨0x3f800000⟩, ⟨0⟩⟩, 0⟩
    let events := { Recording.Schema.events with rows := [(0, RecordingTable.eventCells batch)] }
    let table : RecordingTable := ⟨{ relations := [events] }, false⟩
    let early : ReaderRequest := .propagate (PhotonBatch.empty.setEvent 1)
    let opened := RecordingReader.ofTable table
    let refused := (early.ask .empty opened).state
    let read := (ReaderRequest.next.ask .empty refused).state
    let calls : List ReaderCall :=
      [.of early .empty opened, .of .next .empty refused, .of early batch read]
    (early.ask batch read).state.nextEvent.toNat = 1 ∧
      (deliveries calls).map (·.received.event.toNat) = [0] ∧
      ∀ earlier call later, calls = earlier ++ call :: later →
        call.InTurn table (.ofNat (deliveries earlier).length) := by
  intro batch events table early opened refused read calls
  have reads : Reads table calls (early.ask batch read).state :=
    ((Reads.opened.call early .empty).call .next .empty).call early batch
  have one : (deliveries calls).length = 1 := by decide +kernel
  have ordered := reads.delivers_in_order (by rw [one]; decide)
  rwa [one] at ordered

end Runs

end PhotonFerry
