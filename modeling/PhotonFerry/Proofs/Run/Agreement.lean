import PhotonFerry.Link.Scripted
import PhotonFerry.Proofs.Run.Harvest
import PhotonFerry.Proofs.Run.Serving
/-!
# Recorded and live runs agree

What a run makes of an event depends on its backend only through the batch that the
backend answers. So two runs whose backends serve the same batches go in step, and a
run over a recording of what a peer delivers records the same hits, event by event,
as the run over the peer itself.
-/

namespace PhotonFerry

namespace Controller

variable {α β ρ : Type}

/-- Collect these photons, in place of all that were collected. -/
def collect (photons : PhotonBatch) (controller : Controller β ρ) : Controller β ρ :=
  { controller with photons }

/-- Process the photons of events one after the other, with numbers from `number` on. -/
def processFrom [Backend β] [Response ρ] (number : Nat) :
    List PhotonBatch → Action (Controller β ρ) (List Processed)
  | [] => return []
  | photons :: rest => do
    Action.modify (collect photons)
    let processed ← processEvent (.ofNat number)
    let later ← processFrom (number + 1) rest
    return processed :: later

theorem processFrom_cons [Backend β] [Response ρ] (number : Nat) (photons : PhotonBatch)
    (rest : List PhotonBatch) (controller : Controller β ρ) :
    (processFrom number (photons :: rest) controller).value =
      (processEvent (.ofNat number) (controller.collect photons)).value ::
        (processFrom (number + 1) rest
          (processEvent (.ofNat number) (controller.collect photons)).state).value := rfl

/-- Two controllers make the same hits of the same photoelectrons. -/
structure Alike (first : Controller α ρ) (second : Controller β ρ) : Prop where
  catalog : first.catalog = second.catalog
  channels : first.channels = second.channels
  response : first.response = second.response

/-- What is reported of an event, by what came of its harvest. -/
def report (event : UInt32) (outcome : Outcome) (photons : Nat) (batch : PhotoelectronBatch) :
    Except RunError (Harvest ρ) → Processed
  | .error reason => ⟨.error reason, []⟩
  | .ok harvested => ⟨.ok {
      event, photons, outcome
      photoelectrons := batch.size
      hits := harvested.hits.length
      dropped := harvested.dropped }, harvested.hits⟩

/-- The response after a harvest; one that fails does not count. -/
def responseAfter (before : ρ) : Except RunError (Harvest ρ) → ρ
  | .error _ => before
  | .ok harvested => harvested.response

/-- What becomes of an event for which its own batch was answered: all is decided by
the harvest. -/
structure Answered [Response ρ] (before : Controller β ρ) (event : UInt32) (outcome : Outcome)
    (batch : PhotoelectronBatch) (left : β) (after : Traced (Controller β ρ) Processed) : Prop where
  value : after.value = report event outcome before.photons.size batch
    (harvest before.channels before.catalog event before.response batch.toList)
  response : after.state.response = responseAfter before.response
    (harvest before.channels before.catalog event before.response batch.toList)
  catalog : after.state.catalog = before.catalog
  channels : after.state.channels = before.channels
  backend : after.state.backend = some left

/-- That is so whenever a backend answers an event with its own batch. -/
theorem answered_of_own [Backend β] [Response ρ] {controller : Controller β ρ} {backend : β}
    {event : UInt32} {outcome : Outcome} {batch : PhotoelectronBatch}
    (running : controller.backend = some backend)
    (answer : (controller.ask event backend).value = (.ok outcome, batch))
    (own : batch.event = event) :
    Answered controller event outcome batch (controller.ask event backend).state
      (processEvent event controller) := by
  let asked := propagate backend event controller
  have given : asked.value = .ok outcome := congrArg Prod.fst answer
  have received : asked.state.photoelectrons = batch := congrArg Prod.snd answer
  obtain ⟨value, state⟩ := processEvent_own running given (received ▸ own)
  cases made : harvest controller.channels controller.catalog event controller.response
      batch.toList with
  | error reason =>
    have failed : recordHits event outcome asked.state = ⟨⟨.error reason, []⟩, asked.state, []⟩ :=
      recordHits_failed (received ▸ made)
    rw [failed] at value state
    constructor
    case value => rw [value, made, report]
    case response => rw [state, made]; rfl
    all_goals rw [state]; rfl
  | ok harvested =>
    obtain ⟨reported, left⟩ : (recordHits event outcome asked.state).value = _ ∧
        (recordHits event outcome asked.state).state = _ :=
      recordHits_harvested asked.state (received ▸ made)
    rw [left] at state
    constructor
    case value => rw [value, reported, made, summarize, received]; rfl
    case response => rw [state, made]; rfl
    all_goals rw [state]; rfl

section Steps

variable [Response ρ] {first : Controller α ρ} {second : Controller β ρ} {event : UInt32}
  {outcome : Outcome} {batch : PhotoelectronBatch} {one : α} {other : β}
  {firstAfter : Traced (Controller α ρ) Processed} {secondAfter : Traced (Controller β ρ) Processed}

/-- An event on which both backends gave the same answer. -/
theorem Alike.answered (alike : Alike first second) (photons : first.photons = second.photons)
    (here : Answered first event outcome batch one firstAfter)
    (there : Answered second event outcome batch other secondAfter) :
    firstAfter.value = secondAfter.value ∧ Alike firstAfter.state secondAfter.state := by
  constructor
  · rw [here.value, there.value, photons, alike.catalog, alike.channels, alike.response]
  · exact {
      catalog := by rw [here.catalog, there.catalog, alike.catalog]
      channels := by rw [here.channels, there.channels, alike.channels]
      response := by
        rw [here.response, there.response, alike.catalog, alike.channels, alike.response] }

/-- An event gets its summary if every channel that is mapped leads into the catalog. -/
theorem Answered.exists_summary (answered : Answered first event outcome batch one firstAfter)
    (leads : first.channels.LeadsInto first.catalog) :
    ∃ summary, firstAfter.value.result = .ok summary := by
  obtain ⟨harvested, made, -⟩ := exists_harvest leads event first.response batch.toList
  rw [answered.value, made]
  exact ⟨_, rfl⟩

end Steps

section Runs

variable [Backend α] [Backend β] [Response ρ] {first : Controller α ρ} {second : Controller β ρ}
  {number : Nat} {one : α} {other : β} {photons : List PhotonBatch}
  {batches : List PhotoelectronBatch}

/-- Two runs go in step as long as their backends serve the same batches. -/
theorem Alike.processFrom (alike : Alike first second) (firstRuns : first.backend = some one)
    (secondRuns : second.backend = some other) (firstServes : Serves number one photons batches)
    (secondServes : Serves number other photons batches) :
    (processFrom number photons first).value = (processFrom number photons second).value := by
  induction firstServes generalizing first second other with
  | done => rfl
  | @next number one photons batch rest batches own answers later step =>
    cases secondServes with
    | next _ again laterAgain =>
      have collected : Alike (first.collect photons) (second.collect photons) := { alike with }
      have here : Answered (first.collect photons) _ _ _ _ _ :=
        answered_of_own firstRuns (answers _) own
      have there : Answered (second.collect photons) _ _ _ _ _ :=
        answered_of_own secondRuns (again _) own
      obtain ⟨same, after⟩ := collected.answered rfl here there
      rw [processFrom_cons, processFrom_cons, same,
        step _ after here.backend there.backend (laterAgain _)]

/-- Every event that is served gets its summary. -/
theorem exists_summary_of_serves (running : first.backend = some one)
    (leads : first.channels.LeadsInto first.catalog) (serves : Serves number one photons batches) :
    ∀ processed ∈ (processFrom number photons first).value,
      ∃ summary, processed.result = .ok summary := by
  induction serves generalizing first with
  | done => exact fun _ member => nomatch member
  | @next number one photons batch rest batches own answers later step =>
    have answered : Answered (first.collect photons) _ _ _ _ _ :=
      answered_of_own running (answers _) own
    rw [processFrom_cons, List.forall_mem_cons]
    refine ⟨answered.exists_summary leads, step _ answered.backend ?_⟩
    rw [answered.channels, answered.catalog]
    exact leads

end Runs

/-- A run was begun over the backend, as it is once its positions are known. -/
structure Begun [Backend β] (backend : β) (before after : Controller β ρ) : Prop where
  backend : after.backend = some (Backend.positions backend).state
  catalog : after.catalog = before.catalog
  response : after.response = before.response

section Beginnings

variable [Backend β] {controller : Controller β ρ} {backend : β}

/-- A run that begins ends the one in progress, if there is one, and is then begun. -/
theorem begun_of_beginRun (begun : (beginRun backend controller).value = .ok ()) :
    Begun backend controller (beginRun backend controller).state := by
  cases found : locate controller.catalog backend with
  | error reason => simp [(beginRun_unlocated found).1] at begun
  | ok channels =>
    obtain ⟨reconnects, left⟩ := exists_endRun_state controller
    rw [(beginRun_located found).2, left]
    exact ⟨rfl, rfl, rfl⟩

end Beginnings

/-- A run at the first event of a recording that was filled with the batches, in
any order. -/
def Replays (batches : List PhotoelectronBatch) (controller : Controller RecordingReader ρ) :
    Prop :=
  ∃ reader table inserted, controller.backend = some reader ∧ reader.nextEvent = 0 ∧
    reader.table.database = table.database ∧ RecordingTable.Filled inserted table ∧
    inserted.Perm batches

/-- A run at the first event that photons are shipped for, over a session that is ready
and a peer that delivers the batches. -/
def Ships {σ : Type} (caller : Caller σ) (backendOf : Session σ → β) (photons : List PhotonBatch)
    (batches : List PhotoelectronBatch) (controller : Controller β ρ) : Prop :=
  ∃ session, controller.backend = some (backendOf session) ∧ session.phase = .ready ∧
    caller.DeliversFrom 0 photons batches session.connected session.world

section Recordings

variable {controller : Controller RecordingReader ρ} {table : RecordingTable}
  {batches : List PhotoelectronBatch}

/-- A run that was begun with a recording is at its first event. -/
theorem replays_of_beginRun (filled : RecordingTable.Filled batches table)
    (begun : (beginRun (RecordingReader.ofTable table) controller).value = .ok ()) :
    Replays batches (beginRun (RecordingReader.ofTable table) controller).state := by
  have positions : (Backend.positions (RecordingReader.ofTable table)).state.nextEvent = 0 ∧
      (Backend.positions (RecordingReader.ofTable table)).state.table = table := by
    simp only [Backend.positions, RecordingReader.runPositions, RecordingReader.loadPositions,
      RecordingReader.ofTable, Action.bind_state, Action.get_bind]
    cases table.readPositions <;> exact ⟨rfl, rfl⟩
  exact ⟨_, table, batches, (begun_of_beginRun begun).backend, positions.1,
    congrArg RecordingTable.database positions.2, filled, .refl batches⟩

end Recordings

/-- A run that was begun with a session that is ready and knows its detector is over
this session. -/
theorem ships_of_beginRun {σ : Type} {client : Client σ} {session : Session σ} {info : DetectorInfo}
    {photons : List PhotonBatch} {batches : List PhotoelectronBatch}
    {controller : Controller (LiveBackend σ) ρ} (ready : session.phase = .ready)
    (known : session.detector = some info)
    (delivers : client.caller.DeliversFrom 0 photons batches session.connected session.world)
    (begun : (beginRun (LiveBackend.mk client session) controller).value = .ok ()) :
    Ships client.caller (LiveBackend.mk client) photons batches
      (beginRun (LiveBackend.mk client session) controller).state := by
  have positions : (Backend.positions (LiveBackend.mk client session)).state =
      LiveBackend.mk client session := by
    simp only [Backend.positions, LiveBackend.positions, LiveBackend.run, Action.within,
      Action.bind_state, client.positions_known known]
    rfl
  exact ⟨session, by rw [(begun_of_beginRun begun).backend, positions], ready, delivers⟩

/-- Runs that were begun with the same channels are alike. -/
theorem alike_of_beginRun [Backend α] [Backend β] {first : Controller α ρ}
    {second : Controller β ρ} {one : α} {other : β} (catalog : first.catalog = second.catalog)
    (response : first.response = second.response)
    (firstBegun : (beginRun one first).value = .ok ())
    (secondBegun : (beginRun other second).value = .ok ())
    (channels : (beginRun one first).state.channels = (beginRun other second).state.channels) :
    Alike (beginRun one first).state (beginRun other second).state := by
  have here := begun_of_beginRun firstBegun
  have there := begun_of_beginRun secondBegun
  exact {
    catalog := here.catalog.trans (catalog.trans there.catalog.symm)
    channels := channels
    response := here.response.trans (response.trans there.response.symm) }

section Agreement

variable {σ : Type} [Backend β] [Response ρ]

/-- A run over a recording and a run over a session agree. The recording was filled with
the batches that the peer of the session delivers, both runs are at the first event, and
they have the same catalog, the same response and the same channels. Then they record the
same hits and give the same summary for every event; and no event fails where the
channels lead into the catalog, as they do in every run over a catalog that was built.
Runs that were begun are such runs, and a live backend acts for its client. -/
theorem recorded_agrees_with_live {caller : Caller σ} {backendOf : Session σ → β}
    (acting : ActsFor caller backendOf) {photons : List PhotonBatch}
    {batches : List PhotoelectronBatch} (numbered : NumberedFrom 0 batches)
    (aligned : ∀ batch ∈ batches, batch.Aligned) {recorded : Controller RecordingReader ρ}
    {live : Controller β ρ} (alike : Alike recorded live) (replays : Replays batches recorded)
    (ships : Ships caller backendOf photons batches live) :
    (processFrom 0 photons recorded).value = (processFrom 0 photons live).value ∧
      (recorded.channels.LeadsInto recorded.catalog →
        ∀ processed ∈ (processFrom 0 photons recorded).value,
          ∃ summary, processed.result = .ok summary) := by
  obtain ⟨reader, table, inserted, reading, first, same, filled, permuted⟩ := replays
  obtain ⟨session, connected, ready, delivers⟩ := ships
  have different : (inserted.map PhotoelectronBatch.event).Nodup :=
    (permuted.map PhotoelectronBatch.event).nodup_iff.mpr numbered.nodup
  have stored : ∀ batch ∈ batches, reader.table.readEvent batch.event = .ok batch := by
    intro batch member
    rw [RecordingTable.readEvent_of_database same]
    exact filled.readEvent different (fun one among => aligned one (permuted.subset among)) batch
      (permuted.symm.subset member)
  have replayed : Serves 0 reader photons batches :=
    RecordingReader.serves numbered first stored delivers.paired
  have shipped : Serves 0 (backendOf session) photons batches :=
    acting.serves numbered aligned ready delivers
  exact ⟨alike.processFrom reading connected replayed shipped,
    fun leads => exists_summary_of_serves reading leads replayed⟩

/-- One event that is delivered with the second attempt, behind a reply that is refused. -/
theorem recorded_agrees_with_live_once :
    let catalog : Catalog := ⟨["default"], #[{ id := 0, position := Point.zero }]⟩
    let photons : List PhotonBatch := [.empty]
    let batch : PhotoelectronBatch := PhotoelectronBatch.empty.push {
      channel := 0, time := default, wavelength := default, flags := 0
      direction := ⟨default, default, default⟩
      polarization := ⟨default, default, default⟩ }
    let answers : List Wire.Message := [Wire.encodeRequest .ping, Wire.encodeSimComplete batch]
    let script : Script := { sends := [.ok [], .ok (answers.map fun answer => .ok (some answer))] }
    let client : Client Script := ⟨Script.link "peer", 2, "hits"⟩
    ∃ table, RecordingTable.Filled [batch] table ∧
      let recorded : Controller RecordingReader IdealResponse := {
        catalog, response := IdealResponse.mk, channels := ⟨#[some 0]⟩,
        backend := some (RecordingReader.ofTable table) }
      let live : Controller (LiveBackend Script) IdealResponse := {
        catalog, response := IdealResponse.mk, channels := ⟨#[some 0]⟩,
        backend := some ⟨client, { world := script, phase := .ready }⟩ }
      (processFrom 0 photons recorded).value = (processFrom 0 photons live).value ∧
        ∀ processed ∈ (processFrom 0 photons recorded).value,
          ∃ summary, processed.result = .ok summary := by
  intro catalog photons batch answers script client
  obtain ⟨table, filled⟩ :=
    (RecordingTable.Filled.made RecordingTable.standard_inMemory rfl).exists_later [batch]
  refine ⟨table, filled, ?_⟩
  intro recorded live
  have refused : Caller.Refused 0 (Wire.encodeRequest .ping) := fun out => ⟨_, rfl⟩
  have delivers : client.caller.DeliversFrom 0 photons [batch] false script :=
    .next (.again (.wait (.fresh rfl) rfl (.silence rfl))
      (.now (.fresh rfl) rfl (.later rfl refused (.now rfl)))) .done
  have numbered : NumberedFrom 0 [batch] := rfl
  have aligned : ∀ one ∈ [batch], one.Aligned := by
    intro one member
    rw [List.mem_singleton.mp member]
    exact PhotoelectronBatch.aligned_push PhotoelectronBatch.aligned_empty _
  have agreed := recorded_agrees_with_live (LiveBackend.actsFor client) numbered aligned
    (Alike.mk rfl rfl rfl : Alike recorded live) ⟨_, table, [batch], rfl, rfl, rfl, filled, .refl _⟩
    ⟨{ world := script, phase := .ready }, rfl, rfl, delivers⟩
  have leads : recorded.channels.LeadsInto recorded.catalog := by
    intro channel id mapped
    cases number : channel.toNat with
    | succ place => simp [ChannelMap.get, recorded, number] at mapped
    | zero =>
      obtain rfl : 0 = id := by simpa [ChannelMap.get, recorded, number] using mapped
      exact ⟨_, rfl, rfl⟩
  exact ⟨agreed.1, agreed.2 leads⟩

end Agreement

end Controller

end PhotonFerry
