import PhotonFerry.CommandLine.Program
import PhotonFerry.Proofs.CommandLine.Replaying
import PhotonFerry.Proofs.CommandLine.Reports
import PhotonFerry.Proofs.Recording.Keys
/-!
# Accounting for a recording

A replay counts the rows of a recording and then asks for as many events by their numbers.
It comes to its end exactly when the recording opens, the catalog is valid, the positions
match, and there is a row that can be read for each of these numbers. Then every hit of the
run is tallied once, the report says what the run counted, and every row was replayed unless
there was a limit: no rows are left over where there are as many rows as consecutive numbers
with a row.
-/

namespace PhotonFerry

open Recording

/-- A file is a database with the tables of a recording. -/
structure Recording.StoredFile.Opens (file : StoredFile) (contents : Database) : Prop where
  database : file = .database contents
  tables : ∀ relation ∈ Schema.required, contents.hasTable relation.name

namespace RecordingTable

section Opening

variable {σ : Type} {path : String} {file : StoredFile} {state : σ}

/-- Files that are recordings can be opened, and no others. -/
theorem openFile_eq_ok_iff {table : RecordingTable} :
    (openFile path file state).value = .ok table ↔
      ∃ contents, file.Opens contents ∧ table = ⟨contents, false⟩ := by
  cases file with
  | unreachable | absent | folder | foreign =>
    simp only [openFile, Action.pure_apply, reduceCtorEq, false_iff]
    exact fun ⟨_, opens, _⟩ => nomatch opens.database
  | database contents =>
    cases missing : Schema.required.find? fun relation => !contents.hasTable relation.name with
    | some relation =>
      have absent : ¬ contents.hasTable relation.name := by simpa using List.find?_some missing
      simp only [openFile, missing, Action.pure_apply, reduceCtorEq, false_iff]
      rintro ⟨_, opens, -⟩
      obtain rfl := StoredFile.database.inj opens.database
      exact absent (opens.tables relation (List.mem_of_find?_eq_some missing))
    | none =>
      have complete : ∀ relation ∈ Schema.required, contents.hasTable relation.name := by
        simpa using missing
      simp only [openFile, missing, Action.debug, Action.bind_value, Action.pure_apply,
        Except.ok.injEq]
      constructor
      · rintro rfl
        exact ⟨contents, ⟨rfl, complete⟩, rfl⟩
      · rintro ⟨_, opens, rfl⟩
        rw [StoredFile.database.inj opens.database]

/-- The table of the events is there in a recording. -/
theorem exists_events_of_opens {contents : Database} (opens : file.Opens contents) :
    ∃ relation, contents.get Schema.events.name = .ok relation := by
  have there : contents.hasTable Schema.events.name := opens.tables _ (List.mem_cons_self ..)
  obtain ⟨relation, member, same⟩ := List.any_eq_true.mp there
  have named : relation.isNamed Schema.events.name := by
    simp only [Bool.and_eq_true, decide_eq_true_eq] at same
    simp [Relation.isNamed, same.1]
  cases found : contents.find? Schema.events.name with
  | none => exact absurd named (List.find?_eq_none.mp found relation member)
  | some first => exact ⟨first, Database.get_eq_ok_iff.mpr found⟩

end Opening

end RecordingTable

/-- A recording that can be opened can be read by a run. -/
theorem RecordingReader.openBackend_eq_ok_iff {path : String} {file : StoredFile}
    {reader : RecordingReader} : (openBackend path file ()).value = .ok reader ↔
      ∃ contents, file.Opens contents ∧ reader = .ofTable ⟨contents, false⟩ := by
  constructor
  · intro given
    cases opened : (RecordingTable.openFile path file ()).value with
    | error reason => simp [openBackend, openFile, opened] at given
    | ok table =>
      obtain ⟨contents, opens, rfl⟩ := RecordingTable.openFile_eq_ok_iff.mp opened
      obtain ⟨relation, rows⟩ := RecordingTable.exists_events_of_opens opens
      simp [openBackend, openFile, opened, RecordingTable.eventCount, RecordingTable.rowCount,
        rows, Action.info] at given
      exact ⟨contents, opens, given.symm⟩
  · rintro ⟨contents, opens, rfl⟩
    have opened : (RecordingTable.openFile path file ()).value = .ok ⟨contents, false⟩ :=
      RecordingTable.openFile_eq_ok_iff.mpr ⟨contents, opens, rfl⟩
    obtain ⟨relation, rows⟩ := RecordingTable.exists_events_of_opens opens
    simp [openBackend, openFile, opened, RecordingTable.eventCount, RecordingTable.rowCount,
      rows, Action.info]

namespace CommandLine

open Controller (Built mapped unmapped)

/-- The number of rows of a recording that can be opened. -/
theorem recordedEvents_eq_ok_iff {path : String} {file : StoredFile} {rows : Nat} :
    (recordedEvents path file ()).value = .ok rows ↔ ∃ contents relation, file.Opens contents ∧
      contents.get Schema.events.name = .ok relation ∧ rows = relation.rows.length := by
  constructor
  · intro given
    cases opened : (RecordingTable.openFile path file ()).value with
    | error reason => simp [recordedEvents, opened] at given
    | ok table =>
      obtain ⟨contents, opens, rfl⟩ := RecordingTable.openFile_eq_ok_iff.mp opened
      obtain ⟨relation, found⟩ := RecordingTable.exists_events_of_opens opens
      simp [recordedEvents, opened, RecordingTable.eventCount, RecordingTable.rowCount,
        found] at given
      exact ⟨contents, relation, opens, found, given.symm⟩
  · rintro ⟨contents, relation, opens, found, rfl⟩
    have opened : (RecordingTable.openFile path file ()).value = .ok ⟨contents, false⟩ :=
      RecordingTable.openFile_eq_ok_iff.mpr ⟨contents, opens, rfl⟩
    simp [recordedEvents, opened, RecordingTable.eventCount, RecordingTable.rowCount, found]

/-- The number of events that a replay asks for. -/
def askedFor (rows : Nat) : Option UInt32 → Nat
  | none => rows
  | some most => min rows most.toNat

theorem replayedEvents_eq {rows : Nat} (few : rows < twoTo 32) (maxEvents : Option UInt32) :
    replayedEvents rows maxEvents = eventsFrom 0 (askedFor rows maxEvents) := by
  have asked : (maxEvents.map fun most => min rows most.toNat).getD rows =
      askedFor rows maxEvents := by
    cases maxEvents <;> rfl
  have bound : askedFor rows maxEvents < twoTo 32 := by
    cases maxEvents with
    | none => exact few
    | some most => exact Nat.lt_of_le_of_lt (Nat.min_le_left _ _) few
  rw [replayedEvents, asked, Nat.mod_eq_of_lt bound, eventsFrom, List.range_eq_range']

/-- What a replay needs in order to come to its end. -/
structure Replayable (disk : Disk) (path catalogPath : String) (maxEvents : Option UInt32)
    (contents : Database) (relation : Relation) (catalog : Catalog) (channels : ChannelMap)
    (events : List (List Photoelectron)) : Prop where
  opens : (disk.recordingAt path).Opens contents
  rows : contents.get Schema.events.name = .ok relation
  valid : loadCatalog disk catalogPath = .ok catalog
  /-- The recorded positions are as many as those of the catalog, and one of them at least has a
  counterpart there. -/
  located : ∃ points, (RecordingTable.mk contents false).readPositions = .ok points ∧
    points.length = catalog.size ∧
    ChannelMap.build points catalog.positions ChannelMap.runTolerance = .ok channels ∧
    channels.matched ≠ 0
  /-- There is a row with photoelectrons for each event that is asked for. -/
  asked : events.length = askedFor relation.rows.length maxEvents
  held : (RecordingTable.mk contents false).HoldsFrom 0 events

/-- The positions that a run over a recording works with are those of the recording. -/
theorem positions_ofTable (table : RecordingTable) (points : List (Point Float)) :
    ((Backend.positions (RecordingReader.ofTable table)).value = .ok points ↔
      table.readPositions = .ok points) ∧
    (Backend.positions (RecordingReader.ofTable table)).state.table = table ∧
    (Backend.positions (RecordingReader.ofTable table)).state.nextEvent = 0 := by
  simp only [Backend.positions, RecordingReader.runPositions, RecordingReader.loadPositions,
    RecordingReader.ofTable, Action.bind_value, Action.bind_state, Action.get_bind]
  cases table.readPositions with
  | error reason => simp
  | ok found => simp [Action.debug]

/-- A run over a recording can begin if the recorded positions match. -/
theorem locate_ofTable_iff {catalog : Catalog} {table : RecordingTable} {channels : ChannelMap} :
    Controller.locate catalog (RecordingReader.ofTable table) = .ok channels ↔
      ∃ points, table.readPositions = .ok points ∧ points.length = catalog.size ∧
        ChannelMap.build points catalog.positions ChannelMap.runTolerance = .ok channels ∧
        channels.matched ≠ 0 := by
  rw [Controller.locate_eq_ok_iff]
  refine exists_congr fun points => and_congr (positions_ofTable table points).1 ?_
  constructor
  · rintro ⟨built, matched⟩
    have paired := (ChannelMap.build_eq_ok_iff.mp built).1
    exact ⟨by simpa [Catalog.positions, Catalog.size] using paired, built, matched⟩
  · rintro ⟨-, built, matched⟩
    exact ⟨built, matched⟩

/-- Channels that were located lead into a catalog that was loaded. -/
theorem leadsInto_of_loadCatalog {disk : Disk} {path : String} {catalog : Catalog}
    {points : List (Point Float)} {channels : ChannelMap}
    (loaded : loadCatalog disk path = .ok catalog)
    (built : ChannelMap.build points catalog.positions ChannelMap.runTolerance = .ok channels) :
    channels.LeadsInto catalog := by
  have within : channels.Within catalog.size := by
    simpa [Catalog.positions, Catalog.size] using ChannelMap.within_build built
  unfold loadCatalog at loaded
  split at loaded
  · simp at loaded
  · unfold Catalog.ofText at loaded
    split at loaded
    · simp at loaded
    · exact within.leadsInto loaded

section Runs

variable {path : String} {file : StoredFile} {contents : Database} {catalog : Catalog}
  {channels : ChannelMap} {events : List UInt32}

/-- A controller that is to replay a recording. -/
def idle (catalog : Catalog) : ReplayController := { catalog, response := {} }

/-- What the start of a run over a recording leaves. -/
def started (path : String) (file : StoredFile) (catalog : Catalog) :
    Traced ReplayController (Except RunError Unit) :=
  Controller.beginRunBy (RecordingReader.openBackend path file) (idle catalog)

/-- A run over a recording that can be opened begins at its first event if the recorded positions
match. -/
theorem replaying_of_opens (path : String) (opens : file.Opens contents)
    (located : Controller.locate catalog (RecordingReader.ofTable ⟨contents, false⟩) =
      .ok channels) :
    let begun := started path file catalog
    begun.value = .ok () ∧ begun.state.metrics = {} ∧
      Replaying catalog channels ⟨contents, false⟩ 0 begun.state := by
  intro begun
  let reader := RecordingReader.ofTable ⟨contents, false⟩
  have opened : (RecordingReader.openBackend path file ()).value = .ok reader :=
    RecordingReader.openBackend_eq_ok_iff.mpr ⟨contents, opens, rfl⟩
  have fresh : Controller.Sound catalog (idle catalog) := Controller.sound_fresh IdealResponse.mk
  have sound := fresh.beginRun reader
  have here : Controller.locate (idle catalog).catalog reader = .ok channels := located
  obtain ⟨value, state⟩ := Controller.beginRun_located here
  have same : begun.value = (Controller.beginRun reader (idle catalog)).value ∧
      begun.state = (Controller.beginRun reader (idle catalog)).state := by
    simp [begun, started, Controller.beginRunBy, opened]
  rw [state, Controller.endRun_idle rfl] at sound
  rw [same.1, same.2, value, state, Controller.endRun_idle rfl]
  exact ⟨rfl, rfl, sound, rfl, rfl, _, rfl, (positions_ofTable _ []).2⟩

/-- If a run over a recording begins, the recording can be opened and its positions match. -/
theorem exists_opens_of_begun
    (begun : (started path file catalog).value = .ok ()) :
    ∃ contents channels, file.Opens contents ∧
      Controller.locate catalog (RecordingReader.ofTable ⟨contents, false⟩) = .ok channels := by
  cases opened : (RecordingReader.openBackend path file ()).value with
  | error reason => simp [started, Controller.beginRunBy, opened] at begun
  | ok reader =>
    obtain ⟨contents, opens, rfl⟩ := RecordingReader.openBackend_eq_ok_iff.mp opened
    cases found : Controller.locate catalog (RecordingReader.ofTable ⟨contents, false⟩) with
    | error reason =>
      have unlocated : Controller.locate (idle catalog).catalog
          (RecordingReader.ofTable ⟨contents, false⟩) = .error reason := found
      simp [started, Controller.beginRunBy, opened,
        (Controller.beginRun_unlocated unlocated).1] at begun
    | ok channels => exact ⟨contents, channels, opens, found⟩

/-- A run over a recording that comes to its end: it begins, each of its events is processed in
turn, which makes the hits, and the metrics are those with which it is ended. -/
structure Completes (path : String) (file : StoredFile) (catalog : Catalog)
    (events : List UInt32) (metrics : RunMetrics) (hits : List Hit) : Prop where
  begun : (started path file catalog).value = .ok ()
  processed : (processEvents events (started path file catalog).state).value = .ok hits
  ended : (Controller.endRun
    (processEvents events (started path file catalog).state).state).value = some metrics

/-- A run that completes is reported on. -/
theorem Completes.replayRun {metrics : RunMetrics} {hits : List Hit}
    (completes : Completes path file catalog events metrics hits) :
    (replayRun path file events (idle catalog)).value =
      .ok (replayReport metrics (HitTally.ofHits hits)) := by
  obtain ⟨begun, processed, ended⟩ := completes
  simp only [started] at begun processed ended
  simp [CommandLine.replayRun, begun, processed, ended]

/-- A run that is reported on has begun and processed all its events. -/
theorem exists_processed_of_replayRun {report : Json.Value}
    (given : (replayRun path file events (idle catalog)).value = .ok report) :
    (started path file catalog).value = .ok () ∧
      ∃ hits, (processEvents events (started path file catalog).state).value = .ok hits := by
  cases begun : (started path file catalog).value with
  | error reason =>
    simp only [started] at begun
    simp [CommandLine.replayRun, begun] at given
  | ok _ =>
    cases processed : (processEvents events (started path file catalog).state).value with
    | error reason =>
      simp only [started] at begun processed
      simp [CommandLine.replayRun, begun, processed] at given
    | ok hits => exact ⟨rfl, hits, rfl⟩

end Runs

section Replays

variable {disk : Disk} {path catalogPath : String} {maxEvents : Option UInt32}
  {contents : Database} {relation : Relation} {catalog : Catalog} {channels : ChannelMap}
  {events : List (List Photoelectron)}

/-- What a replay comes to once the recording is counted and the catalog is loaded. -/
theorem replay_value {rows : Nat}
    (recorded : (recordedEvents path (disk.recordingAt path) ()).value = .ok rows)
    (loaded : loadCatalog disk catalogPath = .ok catalog) :
    (replay disk path catalogPath maxEvents ()).value =
      (replayRun path (disk.recordingAt path) (replayedEvents rows maxEvents)
        (idle catalog)).value.mapError .run := by
  cases given : (replayRun path (disk.recordingAt path) (replayedEvents rows maxEvents)
      (idle catalog)).value with
  | error reason =>
    simp only [idle] at given
    simp [replay, recorded, loaded, given, Except.mapError, openContext, Action.info, Action.debug]
  | ok report =>
    simp only [idle] at given
    simp [replay, recorded, loaded, given, Except.mapError, openContext, Action.info, Action.debug]

/-- A replay that has what it needs comes to its end, with a hit for each photoelectron on a
mapped channel. -/
theorem Replayable.completes (few : relation.rows.length < twoTo 32)
    (replayable : Replayable disk path catalogPath maxEvents contents relation catalog channels
      events) :
    ∃ hits, Completes path (disk.recordingAt path) catalog (eventsFrom 0 events.length)
        (addRows {} channels events) hits ∧
      Built catalog (mapped channels events.flatten) IdealResponse.mk hits IdealResponse.mk ∧
      (replay disk path catalogPath maxEvents ()).value =
        .ok (replayReport (addRows {} channels events) (HitTally.ofHits hits)) := by
  obtain ⟨opens, rows, valid, located, asked, held⟩ := replayable
  obtain ⟨points, -, -, matching, -⟩ := id located
  have recorded : (recordedEvents path (disk.recordingAt path) ()).value =
      .ok relation.rows.length :=
    recordedEvents_eq_ok_iff.mpr ⟨contents, relation, opens, rows, rfl⟩
  obtain ⟨begun, fresh, replaying⟩ :=
    replaying_of_opens path opens (locate_ofTable_iff.mpr located)
  obtain ⟨hits, processed, built, metrics, last⟩ :=
    replaying.processEvents (leadsInto_of_loadCatalog valid matching) held
  obtain ⟨-, -, -, reader, running, -⟩ := last
  have ended := (Controller.endRun_running running).1
  rw [metrics, fresh] at ended
  have completes : Completes path (disk.recordingAt path) catalog (eventsFrom 0 events.length)
      (addRows {} channels events) hits := ⟨begun, processed, ended⟩
  refine ⟨hits, completes, built, ?_⟩
  rw [replay_value recorded valid, replayedEvents_eq few, ← asked, completes.replayRun]
  rfl

/-- A replay that comes to its end had what it needs. -/
theorem exists_replayable_of_report {report : Json.Value}
    (few : ∀ contents relation, disk.recordingAt path = .database contents →
      contents.get Schema.events.name = .ok relation → relation.rows.length < twoTo 32)
    (given : (replay disk path catalogPath maxEvents ()).value = .ok report) :
    ∃ contents relation catalog channels events,
      Replayable disk path catalogPath maxEvents contents relation catalog channels events := by
  cases recorded : (recordedEvents path (disk.recordingAt path) ()).value with
  | error reason => simp [replay, recorded] at given
  | ok rows =>
    cases valid : loadCatalog disk catalogPath with
    | error reason => simp [replay, recorded, valid] at given
    | ok catalog =>
      obtain ⟨contents, relation, opens, found, rfl⟩ := recordedEvents_eq_ok_iff.mp recorded
      rw [replay_value recorded valid,
        replayedEvents_eq (few contents relation opens.database found)] at given
      cases ran : (replayRun path (disk.recordingAt path)
          (eventsFrom 0 (askedFor relation.rows.length maxEvents)) (idle catalog)).value with
      | error reason => simp [ran, Except.mapError] at given
      | ok report =>
        obtain ⟨begun, hits, processed⟩ := exists_processed_of_replayRun ran
        obtain ⟨again, channels, opensAgain, located⟩ := exists_opens_of_begun begun
        obtain rfl := StoredFile.database.inj (opens.database.symm.trans opensAgain.database)
        obtain ⟨-, -, replaying⟩ := replaying_of_opens path opens located
        obtain ⟨points, read, paired, built, matched⟩ := locate_ofTable_iff.mp located
        obtain ⟨events, asked, held⟩ :=
          replaying.exists_holdsFrom (leadsInto_of_loadCatalog valid built) processed
        exact ⟨contents, relation, catalog, channels, events, opens, found, valid,
          ⟨points, read, paired, built, matched⟩, asked, held⟩

/-- What the metrics and the hits of a replay say of the recorded events and of their
photoelectrons. -/
structure Accounts (maxEvents : Option UInt32) (relation : Relation) (catalog : Catalog)
    (channels : ChannelMap) (samples : List Photoelectron) (metrics : RunMetrics)
    (hits : List Hit) : Prop where
  /-- Every event that was asked for is counted. -/
  asked : metrics.events = askedFor relation.rows.length maxEvents
  received : metrics.photoelectronsReceived = samples.length
  /-- There is a hit for each photoelectron on a mapped channel. -/
  built : Built catalog (mapped channels samples) IdealResponse.mk hits IdealResponse.mk
  recorded : metrics.hitsRecorded = (mapped channels samples).length
  conserved : metrics.hitsRecorded + metrics.droppedSamples = metrics.photoelectronsReceived
  /-- Each hit is tallied once for its process and once for its photomultiplier. -/
  perProcess : (HitTally.ofHits hits).perProcess.total = metrics.hitsRecorded
  perPhotomultiplier : (HitTally.ofHits hits).perPhotomultiplier.total = metrics.hitsRecorded
  /-- The hits of a process are the photoelectrons on mapped channels with its flags. -/
  ofProcess : ∀ label, (HitTally.ofHits hits).perProcess.lookup label =
    let labels := (mapped channels samples).map fun (sample, _) =>
      (Origin.ofFlags sample.flags).label
    if label ∈ labels then some (labels.count label) else none
  /-- The hits of a photomultiplier are the photoelectrons on the channels mapped to it. -/
  ofPhotomultiplier : ∀ id, (HitTally.ofHits hits).perPhotomultiplier.lookup id =
    let ids := (mapped channels samples).map Prod.snd
    if id ∈ ids then some (ids.count id) else none
  /-- The processes are counted in the order of their names. -/
  ordered : (HitTally.ofHits hits).perProcess.Ascending
  /-- Without a limit no recorded event is left out, and the events have the numbers from 0 on. -/
  complete : maxEvents = none → ∀ key, key ∈ relation.rows.keys ↔ 0 ≤ key ∧ key < metrics.events

/-- If as many rows are held from 0 on as there are, these are all the rows. -/
theorem Replayable.mem_keys_iff (few : relation.rows.length < twoTo 32)
    (replayable : Replayable disk path catalogPath none contents relation catalog channels events)
    (key : Int) : key ∈ relation.rows.keys ↔ 0 ≤ key ∧ key < relation.rows.length := by
  refine Rows.mem_keys_iff_of_counted fun number below => ?_
  have among : number < events.length := replayable.asked ▸ below
  obtain ⟨again, further, found, -, row⟩ :=
    replayable.held number events[number] (List.getElem?_eq_getElem among)
  obtain rfl := Except.ok.inj (replayable.rows.symm.trans found)
  have exact : (UInt32.ofNat (0 + number)).toNat = number := by
    rw [Nat.zero_add, UInt32.toNat_ofNat']
    exact Nat.mod_eq_of_lt (Nat.lt_trans below few)
  rw [Rows.mem_keys_iff, ← exact, row]
  rfl

/-- The metrics and the hits of a replay account for the recording. -/
theorem Replayable.accounts (few : relation.rows.length < twoTo 32)
    (replayable : Replayable disk path catalogPath maxEvents contents relation catalog channels
      events) {hits : List Hit}
    (built : Built catalog (mapped channels events.flatten) IdealResponse.mk hits
      IdealResponse.mk) :
    Accounts maxEvents relation catalog channels events.flatten (addRows {} channels events)
      hits := by
  have asked : (addRows {} channels events).events = askedFor relation.rows.length maxEvents :=
    (Nat.zero_add _).trans replayable.asked
  have recorded : (addRows {} channels events).hitsRecorded =
      (mapped channels events.flatten).length := Nat.zero_add _
  have made : hits.length = (mapped channels events.flatten).length := by
    simpa using congrArg List.length built.ids
  obtain ⟨perPhotomultiplier, perProcess⟩ := HitTally.ofHits_counts hits
  constructor
  case asked => exact asked
  case received => exact Nat.zero_add _
  case built => exact built
  case recorded => exact recorded
  case conserved =>
    simpa [addRows] using Controller.length_mapped_add_length_unmapped channels events.flatten
  case perProcess => rw [perProcess, Counts.total_ofKeys, List.length_map, made, recorded]
  case perPhotomultiplier =>
    rw [perPhotomultiplier, Counts.total_ofKeys, List.length_map, made, recorded]
  case ofProcess =>
    intro label
    have labels : (hits.map fun hit => hit.creator.label) =
        (mapped channels events.flatten).map fun (sample, _) =>
          (Origin.ofFlags sample.flags).label := by
      simpa [Function.comp_def] using congrArg (List.map Origin.label) built.creators
    rw [perProcess, (Counts.ofKeys_counts _).2, labels]
  case ofPhotomultiplier =>
    intro id
    rw [perPhotomultiplier, (Counts.ofKeys_counts _).2, built.ids]
  case ordered =>
    rw [perProcess]
    exact (Counts.ofKeys_counts _).1
  case complete =>
    rintro rfl key
    rw [asked]
    exact replayable.mem_keys_iff few key

end Replays

/-- A program prints the report of a command that succeeds, and nothing on any error. -/
theorem invoke_prints (surroundings : Surroundings) (invocation : Invocation) :
    let left := Program.invoke surroundings invocation
    (left.1.output = "" ∧ left.1.status ≠ Program.success) ∨
      ∃ config report, Program.configure surroundings invocation = .ok config ∧
        (Program.perform left.2 config invocation.command ()).value = .ok report ∧
        left.1.output = report.text ++ "\n" ∧ left.1.status = Program.success := by
  have failed : Program.failed ≠ Program.success := by decide
  have faulty : Program.faulty ≠ Program.success := by decide
  unfold Program.invoke
  split
  · exact .inl ⟨rfl, failed⟩
  · rename_i config configured
    dsimp only
    split
    · unfold Program.withoutLogging
      split
      · exact .inl ⟨rfl, faulty⟩
      · exact .inl ⟨rfl, failed⟩
    · unfold Program.conclude
      dsimp only
      split
      · rename_i report performed
        exact .inr ⟨config, report, configured, performed, rfl, rfl⟩
      · exact .inl ⟨rfl, failed⟩

/-- The replay of a recording with fewer events than there are numbers for them. It succeeds exactly
if it has what it needs. Then its run completes, and the report says what the run counted and what
its hits add up to, and these account for the recording. The program prints the report then, and
nothing if the replay does not succeed. -/
theorem replay_accounts {disk : Disk} {path : String}
    (few : ∀ contents relation, disk.recordingAt path = .database contents →
      contents.get Schema.events.name = .ok relation → relation.rows.length < twoTo 32)
    (catalogPath : String) (maxEvents : Option UInt32) :
    let ended := replay disk path catalogPath maxEvents ()
    ((∃ report, ended.value = .ok report) ↔ ∃ contents relation catalog channels events,
      Replayable disk path catalogPath maxEvents contents relation catalog channels events) ∧
    (∀ contents relation catalog channels events,
      Replayable disk path catalogPath maxEvents contents relation catalog channels events →
        ∃ report metrics hits, ended.value = .ok report ∧
          report = replayReport metrics (HitTally.ofHits hits) ∧ ReportsOn report metrics hits ∧
          Completes path (disk.recordingAt path) catalog
            ((List.range metrics.events).map UInt32.ofNat) metrics hits ∧
          Accounts maxEvents relation catalog channels events.flatten metrics hits) ∧
    ∀ surroundings invocation config table,
      Program.configure surroundings invocation = .ok config →
      invocation.command = .replay table catalogPath maxEvents →
      table.getD config.recording = path → (Program.invoke surroundings invocation).2 = disk →
        let ending := (Program.invoke surroundings invocation).1
        (ending.output = "" ∧ ending.status ≠ Program.success) ∨
          ∃ report, ended.value = .ok report ∧ ending.output = report.text ++ "\n" ∧
            ending.status = Program.success := by
  intro ended
  have succeeds {contents relation catalog channels events}
      (replayable : Replayable disk path catalogPath maxEvents contents relation catalog channels
        events) :
      ∃ report metrics hits, ended.value = .ok report ∧
        report = replayReport metrics (HitTally.ofHits hits) ∧ ReportsOn report metrics hits ∧
        Completes path (disk.recordingAt path) catalog
          ((List.range metrics.events).map UInt32.ofNat) metrics hits ∧
        Accounts maxEvents relation catalog channels events.flatten metrics hits := by
    have bound := few contents relation replayable.opens.database replayable.rows
    obtain ⟨hits, completes, built, given⟩ := replayable.completes bound
    have numbers : eventsFrom 0 events.length =
        (List.range (addRows {} channels events).events).map UInt32.ofNat := by
      rw [eventsFrom, ← List.range_eq_range', addRows, Nat.zero_add]
    rw [numbers] at completes
    exact ⟨_, _, hits, given, rfl, replayReport_reportsOn _ hits, completes,
      replayable.accounts bound built⟩
  refine ⟨⟨?_, ?_⟩, fun _ _ _ _ _ => succeeds, ?_⟩
  · rintro ⟨report, given⟩
    exact exists_replayable_of_report few given
  · rintro ⟨contents, relation, catalog, channels, events, replayable⟩
    obtain ⟨report, -, -, given, -⟩ := succeeds replayable
    exact ⟨report, given⟩
  · rintro surroundings invocation config table configured command rfl rfl
    refine (invoke_prints surroundings invocation).imp id ?_
    rintro ⟨again, report, configuredAgain, performed, output, status⟩
    obtain rfl := Except.ok.inj (configured.symm.trans configuredAgain)
    rw [command] at performed
    exact ⟨report, performed, output, status⟩

/-- The replay of a recording of one event, against two photomultipliers whose channels are numbered
the other way round. A photoelectron on the first channel is a hit, and one on a channel that no
photomultiplier has is dropped. -/
theorem replay_accounts_crossed :
    let far : Point Float := ⟨100.0, 0.0, 0.0⟩
    let still : Point Single := ⟨⟨0⟩, ⟨0⟩, ⟨0⟩⟩
    let sample (channel : UInt32) : Photoelectron :=
      ⟨channel, ⟨0x40000000⟩, ⟨0x43c80000⟩, still, still, ProcessBit.cherenkov⟩
    let samples := [sample 0, sample 7]
    let relation : Relation := { Schema.events with
      rows := [(0, RecordingTable.eventCells (.ofListing ⟨0, samples⟩))] }
    let positionRows : Rows := [
      (0, [Cell.ofFloat far.x, Cell.ofFloat far.y, Cell.ofFloat far.z]),
      (1, [Cell.ofFloat 0.0, Cell.ofFloat 0.0, Cell.ofFloat 0.0])]
    let contents : Database :=
      { relations := [relation, { Schema.positions with rows := positionRows }] }
    let catalogText := "\x7b\"pmts\": [[0, [0, 0, 0]], [1, [100, 0, 0]]]\x7d"
    let disk : Disk :=
      { root := .folder [("r", .file (.recording contents) 0), ("c", .file (.text catalogText) 0)]
        home := [] }
    let catalog : Catalog :=
      { entries := #[{ id := 0, position := Point.zero }, { id := 1, position := far }] }
    let ended := replay disk "/r" "/c" none ()
    (∀ contents relation, disk.recordingAt "/r" = .database contents →
        contents.get Schema.events.name = .ok relation → relation.rows.length < twoTo 32) ∧
      Replayable disk "/r" "/c" none contents relation catalog ⟨#[some 1, some 0]⟩ [samples] ∧
      ((∃ report, ended.value = .ok report) ↔ ∃ contents relation catalog channels events,
        Replayable disk "/r" "/c" none contents relation catalog channels events) ∧
      ∃ report metrics hits, ended.value = .ok report ∧
        report = replayReport metrics (HitTally.ofHits hits) ∧ ReportsOn report metrics hits ∧
        Completes "/r" (disk.recordingAt "/r") catalog
          ((List.range metrics.events).map UInt32.ofNat) metrics hits ∧
        Accounts none relation catalog ⟨#[some 1, some 0]⟩ samples metrics hits ∧
        metrics.events = 1 ∧ metrics.hitsRecorded = 1 ∧ metrics.droppedSamples = 1 := by
  intro far still sample samples relation positionRows contents catalogText disk catalog ended
  have stored : disk.recordingAt "/r" = .database contents := by with_unfolding_all rfl
  have events : contents.find? Schema.events.name = some relation := by
    simp [contents, relation, Database.find?, Relation.isNamed]
  have opens : (disk.recordingAt "/r").Opens contents := ⟨stored, by decide +kernel⟩
  let entries : List Photomultiplier :=
    [{ id := 0, position := Point.zero }, { id := 1, position := far }]
  have valid : loadCatalog disk "/c" = .ok catalog := by
    have text : disk.readText "/c" = .ok catalogText := by with_unfolding_all rfl
    have written : Catalog.contents? catalogText = some ([], entries) := by decide +kernel
    simp only [loadCatalog, text, Catalog.ofText, written]
    rw [Catalog.build_of_ascending (by simp [entries])]
    rfl
  have located : (RecordingTable.mk contents false).readPositions = .ok [far, Point.zero] := by
    decide +kernel
  have matching : ChannelMap.build [far, Point.zero] catalog.positions ChannelMap.runTolerance =
      .ok ⟨#[some 1, some 0]⟩ := by
    decide +kernel
  have held : (RecordingTable.mk contents false).Holds ⟨0, samples⟩ := by
    refine ⟨relation, [], Database.get_eq_ok_iff.mpr events, by decide +kernel, ?_⟩
    simp [relation, Rows.find?, RecordingTable.eventCells, RecordingTable.sampleBlobs_ofListing]
  have replayable : Replayable disk "/r" "/c" none contents relation catalog
      ⟨#[some 1, some 0]⟩ [samples] := by
    refine ⟨opens, Database.get_eq_ok_iff.mpr events, valid,
      ⟨_, located, rfl, matching, by decide⟩, rfl, ?_⟩
    exact RecordingTable.holdsFrom_cons.mpr ⟨held, by simp [RecordingTable.HoldsFrom]⟩
  have few : ∀ contents relation, disk.recordingAt "/r" = .database contents →
      contents.get Schema.events.name = .ok relation → relation.rows.length < twoTo 32 := by
    intro again found same rows
    obtain rfl := StoredFile.database.inj (stored.symm.trans same)
    obtain rfl := Option.some.inj (events.symm.trans (Database.get_eq_ok_iff.mp rows))
    exact (by decide : 1 < twoTo 32)
  obtain ⟨decided, succeeds, -⟩ := replay_accounts few "/c" none
  obtain ⟨report, metrics, hits, given, whole, reports, completes, accounts⟩ :=
    succeeds _ _ _ _ _ replayable
  have recorded : metrics.hitsRecorded = 1 := accounts.recorded
  have conserved := accounts.conserved
  have received := accounts.received
  rw [recorded] at conserved
  refine ⟨few, replayable, decided, report, metrics, hits, given, whole, reports, completes,
    accounts, accounts.asked, recorded, ?_⟩
  simp [samples] at received
  omega

end CommandLine

end PhotonFerry
