import PhotonFerry.CommandLine.Commands
import PhotonFerry.Proofs.Run.Agreement
import PhotonFerry.Proofs.Sample.Fields
/-!
# Replaying rows

A replay asks for the events one after the other, and the reader has each of them next. So
each event comes down to its row: if the row holds photoelectrons, those on mapped channels
become hits and all are counted; if it holds none that can be read, the replay is over. The
whole run comes down to the rows from the first to the last.
-/

namespace PhotonFerry

/-- A recording holds the photoelectrons of events with numbers from `number` on. -/
def RecordingTable.HoldsFrom (table : RecordingTable) (number : Nat)
    (events : List (List Photoelectron)) : Prop :=
  ∀ index samples, events[index]? = some samples → table.Holds ⟨.ofNat (number + index), samples⟩

theorem RecordingTable.holdsFrom_cons {table : RecordingTable} {number : Nat}
    {samples : List Photoelectron} {events : List (List Photoelectron)} :
    table.HoldsFrom number (samples :: events) ↔
      table.Holds ⟨.ofNat number, samples⟩ ∧ table.HoldsFrom (number + 1) events := by
  constructor
  · intro held
    refine ⟨held 0 samples rfl, fun index later found => ?_⟩
    rw [Nat.add_assoc, Nat.add_comm 1]
    exact held (index + 1) later found
  · rintro ⟨first, rest⟩ index later found
    cases index with
    | zero =>
      obtain rfl : samples = later := by simpa using found
      exact first
    | succ index =>
      rw [← Nat.add_assoc, Nat.add_right_comm]
      exact rest index later (by simpa using found)

namespace Controller

variable {ρ : Type} [Response ρ]

/-- Hits that are built of samples behind others. -/
theorem Built.append {catalog : Catalog} {first second : List (Photoelectron × UInt32)}
    {before between after : ρ} {hits later : List Hit}
    (here : Built catalog first before hits between)
    (there : Built catalog second between later after) :
    Built catalog (first ++ second) before (hits ++ later) after := by
  induction here with
  | nil => exact there
  | cons found numbered made rest step => exact .cons found numbered made (step there)

/-- A hit was made by the process that the flags of its sample name. -/
theorem Built.creators {catalog : Catalog} {samples : List (Photoelectron × UInt32)}
    {before after : ρ} {hits : List Hit} (built : Built catalog samples before hits after) :
    hits.map Hit.creator = samples.map fun (sample, _) => Origin.ofFlags sample.flags := by
  induction built with
  | nil => rfl
  | cons found numbered made later step =>
    rw [List.map_cons, List.map_cons, step, Origin.toldBy_iff.mp made.creator]

end Controller

namespace CommandLine

open Controller (Built Sound mapped unmapped)

/-- What is counted of a row. -/
def rowSummary (channels : ChannelMap) (event : UInt32) (samples : List Photoelectron) :
    EventSummary where
  event
  photons := 0
  photoelectrons := samples.length
  hits := (mapped channels samples).length
  dropped := (unmapped channels samples).length
  outcome := .complete

/-- Count some rows on top of what was counted before. -/
def addRows (metrics : RunMetrics) (channels : ChannelMap) (events : List (List Photoelectron)) :
    RunMetrics :=
  { metrics with
    events := metrics.events + events.length
    photoelectronsReceived := metrics.photoelectronsReceived + events.flatten.length
    hitsRecorded := metrics.hitsRecorded + (mapped channels events.flatten).length
    droppedSamples := metrics.droppedSamples + (unmapped channels events.flatten).length }

theorem addRows_record (metrics : RunMetrics) (channels : ChannelMap) (event : UInt32)
    (samples : List Photoelectron) (events : List (List Photoelectron)) :
    addRows (metrics.record (rowSummary channels event samples)) channels events =
      addRows metrics channels (samples :: events) := by
  simp only [addRows, RunMetrics.record, rowSummary, List.flatten_cons, mapped, unmapped,
    List.filterMap_append, List.filter_append, List.length_append, List.length_cons,
    RunMetrics.mk.injEq]
  simp
  omega

/-- A replay that is at the event with a number. -/
structure Replaying (catalog : Catalog) (channels : ChannelMap) (table : RecordingTable)
    (number : Nat) (controller : ReplayController) : Prop where
  sound : Sound catalog controller
  channels : controller.channels = channels
  /-- No photons are collected. -/
  dark : controller.photons.size = 0
  reading : ∃ reader, controller.backend = some reader ∧ reader.table = table ∧
    reader.nextEvent = .ofNat number

variable {catalog : Catalog} {channels : ChannelMap} {table : RecordingTable} {number : Nat}
  {controller : ReplayController}

/-- An event is its row: its photoelectrons become hits and are counted. -/
theorem Replaying.processEvent (replaying : Replaying catalog channels table number controller)
    (leads : channels.LeadsInto catalog) {samples : List Photoelectron}
    (held : table.Holds ⟨.ofNat number, samples⟩) :
    ∃ hits, (Controller.processEvent (.ofNat number) controller).value =
        ⟨.ok (rowSummary channels (.ofNat number) samples), hits⟩ ∧
      Built catalog (mapped channels samples) IdealResponse.mk hits IdealResponse.mk ∧
      (Controller.processEvent (.ofNat number) controller).state.metrics =
        controller.metrics.record (rowSummary channels (.ofNat number) samples) ∧
      Replaying catalog channels table (number + 1)
        (Controller.processEvent (.ofNat number) controller).state := by
  obtain ⟨sound, rfl, dark, reader, running, rfl, next⟩ := replaying
  have recorded : reader.table.readEvent (.ofNat number) =
      .ok (.ofListing ⟨.ofNat number, samples⟩) :=
    RecordingTable.readEvent_held_iff.mpr ⟨samples, held, rfl⟩
  let asked := controller.ask (.ofNat number) reader
  obtain ⟨answer, left⟩ : asked.value = _ ∧ asked.state = _ :=
    RecordingReader.propagate_next next recorded controller.photoelectrons
  have harvested := Controller.harvested_of_own sound leads running
    (show asked.value.1 = .ok .complete by rw [answer]) (by
      show asked.value.2.event = _
      rw [answer]
      rfl)
  have listed : asked.value.2 = .ofListing ⟨.ofNat number, samples⟩ := by rw [answer]
  have summary : controller.tally (.ofNat number) .complete asked.value.2 =
      rowSummary controller.channels (.ofNat number) samples := by
    simp [Controller.tally, rowSummary, listed, dark]
  have result := harvested.result
  have built := harvested.hits
  have state := harvested.state
  rw [summary] at result state
  rw [listed, PhotoelectronBatch.toList_ofListing, sound.catalog] at built
  refine ⟨_, by rw [← result], built, by rw [state], sound.processEvent _, ?_, ?_, ?_⟩
  · rw [state]
    rfl
  · rw [state]
    rfl
  · rw [state]
    refine ⟨_, rfl, ?_, ?_⟩
    · show asked.state.table = _
      rw [left]
    · show asked.state.nextEvent = _
      rw [left]
      exact (UInt32.ofNat_add number 1).symm

/-- If its row holds nothing that can be read, the event fails. -/
theorem Replaying.processEvent_unreadable
    (replaying : Replaying catalog channels table number controller) {reason : RecordingError}
    (unreadable : table.readEvent (.ofNat number) = .error reason) :
    (Controller.processEvent (.ofNat number) controller).value.result =
      .error (.recording reason) := by
  obtain ⟨sound, rfl, dark, reader, running, rfl, next⟩ := replaying
  have kept : reader.table.loadEvent (.ofNat number) controller.photoelectrons =
      (.error reason, controller.photoelectrons) := by
    rw [RecordingTable.loadEvent, unreadable]
  have failed : (controller.ask (.ofNat number) reader).value.1 = .error (.recording reason) := by
    simp [Controller.ask, Backend.propagate, RecordingReader.propagate,
      RecordingReader.readRequested, RecordingReader.readNext, PhotonBatch.setEvent, next, kept]
  exact congrArg Processed.result (Controller.givenUp_of_failed running failed).value

/-- The numbers of some events from a number on. -/
def eventsFrom (number count : Nat) : List UInt32 :=
  (List.range' number count).map UInt32.ofNat

theorem eventsFrom_succ (number count : Nat) :
    eventsFrom number (count + 1) = .ofNat number :: eventsFrom (number + 1) count := by
  rw [eventsFrom, List.range'_succ, List.map_cons, eventsFrom]

/-- If the first event fails, no other is processed. -/
theorem processEvents_failed {event : UInt32} {reason : RunError}
    (failed : (Controller.processEvent event controller).value.result = .error reason)
    (rest : List UInt32) :
    (processEvents (event :: rest) controller).value = .error reason := by
  simp [processEvents, failed]

/-- Else its hits come before those of the others. -/
theorem processEvents_processed {event : UInt32} {summary : EventSummary} {hits : List Hit}
    (processed : (Controller.processEvent event controller).value = ⟨.ok summary, hits⟩)
    (rest : List UInt32) :
    let left := (Controller.processEvent event controller).state
    (processEvents (event :: rest) controller).value =
        (processEvents rest left).value.map (hits ++ ·) ∧
      (processEvents (event :: rest) controller).state = (processEvents rest left).state := by
  intro left
  cases given : (processEvents rest left).value with
  | error reason => simp [processEvents, processed, left, given, Except.map]
  | ok behind => simp [processEvents, processed, left, given, Except.map]

/-- Rows that hold photoelectrons are replayed to the last: one hit is made for each
photoelectron on a mapped channel, and all are counted. -/
theorem Replaying.processEvents (replaying : Replaying catalog channels table number controller)
    (leads : channels.LeadsInto catalog) {events : List (List Photoelectron)}
    (held : table.HoldsFrom number events) :
    let ended := CommandLine.processEvents (eventsFrom number events.length) controller
    ∃ hits, ended.value = .ok hits ∧
      Built catalog (mapped channels events.flatten) IdealResponse.mk hits IdealResponse.mk ∧
      ended.state.metrics = addRows controller.metrics channels events ∧
      Replaying catalog channels table (number + events.length) ended.state := by
  induction events generalizing number controller with
  | nil => exact ⟨[], rfl, .nil, rfl, replaying⟩
  | cons samples rest step =>
    obtain ⟨row, later⟩ := RecordingTable.holdsFrom_cons.mp held
    obtain ⟨hits, processed, built, metrics, next⟩ := replaying.processEvent leads row
    obtain ⟨behind, given, builtBehind, metricsBehind, last⟩ := step next later
    obtain ⟨value, state⟩ := processEvents_processed processed (eventsFrom (number + 1) rest.length)
    rw [given] at value
    rw [List.length_cons, eventsFrom_succ, Nat.add_comm rest.length, ← Nat.add_assoc]
    refine ⟨hits ++ behind, value, ?_, ?_, ?_⟩
    · rw [List.flatten_cons, mapped, List.filterMap_append]
      exact built.append builtBehind
    · rw [state, metricsBehind, metrics, addRows_record]
    · rw [state]
      exact last

/-- If a replay does not fail, every row that it asked for holds photoelectrons. -/
theorem Replaying.exists_holdsFrom
    (replaying : Replaying catalog channels table number controller)
    (leads : channels.LeadsInto catalog) {count : Nat} {hits : List Hit}
    (given : (CommandLine.processEvents (eventsFrom number count) controller).value = .ok hits) :
    ∃ events, events.length = count ∧ table.HoldsFrom number events := by
  induction count generalizing number controller hits with
  | zero => exact ⟨[], rfl, fun _ _ found => nomatch found⟩
  | succ count step =>
    rw [eventsFrom_succ] at given
    cases read : table.readEvent (.ofNat number) with
    | error reason =>
      rw [processEvents_failed (replaying.processEvent_unreadable read)] at given
      simp at given
    | ok batch =>
      obtain ⟨samples, row, -⟩ := RecordingTable.readEvent_held_iff.mp read
      obtain ⟨made, processed, -, -, next⟩ := replaying.processEvent leads row
      rw [(processEvents_processed processed _).1] at given
      cases behind : (CommandLine.processEvents (eventsFrom (number + 1) count)
          (Controller.processEvent (.ofNat number) controller).state).value with
      | error reason => simp [behind, Except.map] at given
      | ok later =>
        obtain ⟨events, length, held⟩ := step next behind
        exact ⟨samples :: events, by rw [List.length_cons, length],
          RecordingTable.holdsFrom_cons.mpr ⟨row, held⟩⟩

end CommandLine

end PhotonFerry
