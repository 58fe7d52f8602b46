import PhotonFerry.Proofs.Client.Photoelectrons
import PhotonFerry.Proofs.Run.Harvest
/-!
# The books of a run

Whatever is done with a controller, and in whatever order it succeeds and fails, its
counters are the sums over the summaries that were given since the last run began. The
argument is one entry at a time: an event either gets a summary, which is added, or it
leaves the counters alone; nothing but a run that begins sets them back.
-/

namespace PhotonFerry

/-- The sum of something that summaries count. -/
def EventSummary.sumOf (count : EventSummary → Nat) (summaries : List EventSummary) : Nat :=
  (summaries.map count).foldr (· + ·) 0

/-- What summaries add up to. -/
def RunMetrics.total (summaries : List EventSummary) : RunMetrics where
  events := summaries.length
  photonsSent := EventSummary.sumOf EventSummary.photons summaries
  photoelectronsReceived := EventSummary.sumOf EventSummary.photoelectrons summaries
  hitsRecorded := EventSummary.sumOf EventSummary.hits summaries
  droppedSamples := EventSummary.sumOf EventSummary.dropped summaries
  failedEvents := summaries.countP (·.outcome = .failed)
  deferredEvents := summaries.countP (·.outcome = .deferred)

/-- What is said of an event is consistent: each photoelectron was recorded or dropped, and there
are none unless the event is complete. -/
structure EventSummary.Fair (summary : EventSummary) : Prop where
  conserved : summary.hits + summary.dropped = summary.photoelectrons
  silent : summary.outcome ≠ .complete → summary.photoelectrons = 0

theorem EventSummary.sumOf_concat (count : EventSummary → Nat) (summaries : List EventSummary)
    (summary : EventSummary) : sumOf count (summaries ++ [summary]) =
      sumOf count summaries + count summary := by
  induction summaries with
  | nil => exact Nat.add_comm _ _
  | cons first rest step =>
    simp only [sumOf, List.cons_append, List.map_cons, List.foldr_cons] at step ⊢
    omega

namespace RunMetrics

variable {summaries : List EventSummary}

/-- One more summary is added. -/
theorem total_concat (summary : EventSummary) :
    total (summaries ++ [summary]) = (total summaries).record summary := by
  simp [total, record, EventSummary.sumOf_concat, List.countP_append, List.countP_singleton]

/-- Each photoelectron is counted once more, as a hit or as dropped. -/
theorem total_conserved (fair : ∀ summary ∈ summaries, summary.Fair) :
    (total summaries).hitsRecorded + (total summaries).droppedSamples =
      (total summaries).photoelectronsReceived := by
  induction summaries with
  | nil => rfl
  | cons summary rest step =>
    rw [List.forall_mem_cons] at fair
    have here := fair.1.conserved
    have later := step fair.2
    simp only [total, EventSummary.sumOf, List.map_cons, List.foldr_cons] at later ⊢
    omega

/-- No event is counted as failed and as deferred. -/
theorem total_bounded (summaries : List EventSummary) :
    (total summaries).failedEvents + (total summaries).deferredEvents ≤
      (total summaries).events := by
  induction summaries with
  | nil => exact Nat.le_refl _
  | cons summary rest step =>
    simp only [total, List.countP_cons, List.length_cons] at step ⊢
    cases summary.outcome <;> simp <;> omega

end RunMetrics

/-- A backend that has no photoelectrons for an event unless it is complete. -/
def Candid (β : Type) [Backend β] : Prop :=
  ∀ photons out (backend : β) outcome batch,
    (Backend.propagate photons out backend).value = (.ok outcome, batch) → outcome ≠ .complete →
      batch = { event := photons.event }

section Candour

/-- A client hands out an empty batch when it fails. -/
theorem LiveBackend.candid {σ : Type} : Candid (LiveBackend σ) := by
  intro photons out backend outcome batch answered incomplete
  obtain ⟨-, own, -⟩ := (Client.propagate_own_photoelectrons photons out backend.session).2
    backend.client
  have handed : (backend.client.propagate photons out backend.session).value =
      (outcome, batch) := by
    simp only [Backend.propagate, propagate, run, Action.within_apply, Action.bind_value,
      Action.pure_apply, Prod.mk.injEq, Except.ok.injEq] at answered
    exact Prod.ext answered.1 answered.2
  rw [handed] at own
  exact own.empty incomplete

/-- A reader delivers nothing but complete events. -/
theorem RecordingReader.candid : Candid RecordingReader := by
  intro photons out reader outcome batch answered incomplete
  simp only [Backend.propagate, propagate, Action.bind_value] at answered
  rcases ended : (readRequested photons.event out reader).value with ⟨reason | event, read⟩
  · simp [ended] at answered
  · simp only [ended, Action.pure_apply, Prod.mk.injEq, Except.ok.injEq] at answered
    exact absurd answered.1.symm incomplete

/-- A choice between candid backends is candid. -/
theorem Candid.sum {α β : Type} [Backend α] [Backend β] (left : Candid α) (right : Candid β) :
    Candid (α ⊕ β) := by
  intro photons out backend outcome batch answered
  cases backend with
  | inl backend => exact left photons out backend outcome batch answered
  | inr backend => exact right photons out backend outcome batch answered

end Candour

namespace Controller

variable {β ρ : Type}

section Events

variable [Backend β] [Response ρ] {catalog : Catalog} {controller : Controller β ρ}
  {event : UInt32}

omit [Backend β] in
/-- A harvest makes a hit of each photoelectron or drops it. -/
theorem length_of_harvest {channels : ChannelMap} {catalog : Catalog} {response : ρ}
    {samples : List Photoelectron} {harvested : Harvest ρ}
    (made : harvest channels catalog event response samples = .ok harvested) :
    harvested.hits.length + harvested.dropped = samples.length := by
  induction samples generalizing response harvested with
  | nil =>
    obtain rfl := Except.ok.inj made
    rfl
  | cons sample rest step =>
    rw [List.length_cons]
    simp only [harvest] at made
    split at made
    · split at made
      · simp at made
      · rename_i later behind
        obtain rfl := Except.ok.inj made
        exact congrArg Nat.succ (step behind)
    · split at made
      · simp at made
      · split at made
        · simp at made
        · rename_i later behind
          obtain rfl := Except.ok.inj made
          rw [List.length_cons, Nat.succ_add_eq_add_succ]
          exact congrArg Nat.succ (step behind)

/-- An event that was given a summary, which is added to the counters. -/
structure Booked (before : Controller β ρ) (event : UInt32) (backend : β) (summary : EventSummary)
    (after : Traced (Controller β ρ) Processed) : Prop where
  result : after.value.result = .ok summary
  labelled : summary.event = event
  photons : summary.photons = before.photons.size
  /-- The backend answered with the outcome and with photoelectrons for the event. -/
  answered : ∃ batch, (before.ask event backend).value = (.ok summary.outcome, batch) ∧
    batch.event = event ∧ batch.size = summary.photoelectrons
  recorded : after.value.hits.length = summary.hits
  conserved : summary.hits + summary.dropped = summary.photoelectrons
  metrics : after.state.metrics = before.metrics.record summary

/-- All that an event can do to the counters: they are added to, or they stay. -/
theorem processEvent_books (sound : Sound catalog controller) (event : UInt32) :
    (∃ backend summary, controller.backend = some backend ∧
      Booked controller event backend summary (processEvent event controller)) ∨
    ∃ reason, (processEvent event controller).value = ⟨.error reason, []⟩ ∧
      (processEvent event controller).state.metrics = controller.metrics := by
  cases running : controller.backend with
  | none =>
    rw [processEvent_idle running]
    exact .inr ⟨_, rfl, rfl⟩
  | some backend =>
    let asked := propagate backend event controller
    cases answer : asked.value with
    | error reason =>
      obtain ⟨value, state⟩ := processEvent_failed running answer
      exact .inr ⟨reason, value, by rw [state]; rfl⟩
    | ok outcome =>
      by_cases own : asked.state.photoelectrons.event = event
      · obtain ⟨value, state⟩ := processEvent_own running answer own
        cases made : harvest asked.state.channels asked.state.catalog event asked.state.response
            asked.state.photoelectrons.toList with
        | error reason =>
          rw [recordHits_failed made] at value state
          exact .inr ⟨reason, value, by rw [state]; rfl⟩
        | ok harvested =>
          obtain ⟨reported, left⟩ : (recordHits event outcome asked.state).value = _ ∧
              (recordHits event outcome asked.state).state = _ :=
            recordHits_harvested asked.state made
          have listed : asked.state.photoelectrons.toList.length =
              asked.state.photoelectrons.size :=
            PhotoelectronBatch.length_toList (sound.propagate backend event).aligned
          refine .inl ⟨backend, asked.state.summarize event outcome harvested, rfl, ?_⟩
          exact {
            result := by rw [value, reported]
            labelled := rfl
            photons := rfl
            answered := ⟨asked.state.photoelectrons, Prod.ext answer rfl, own, rfl⟩
            recorded := by rw [value, reported]; rfl
            conserved := (length_of_harvest made).trans listed
            metrics := by rw [state, left]; rfl }
      · obtain ⟨value, state⟩ := processEvent_foreign running answer own
        exact .inr ⟨_, value, by rw [state]; rfl⟩

omit [Response ρ] in
/-- The summaries of a candid backend are consistent. -/
theorem Booked.fair (candid : Candid β) {backend : β} {summary : EventSummary}
    {after : Traced (Controller β ρ) Processed}
    (booked : Booked controller event backend summary after) : summary.Fair where
  conserved := booked.conserved
  silent incomplete := by
    obtain ⟨batch, answered, -, size⟩ := booked.answered
    rw [← size, candid _ _ backend _ batch answered incomplete]
    rfl

end Events

section Beginnings

variable [Backend β]

/-- If a run does not begin, the one before it is over, and its books are closed. -/
theorem beginRun_books (backend : β) (controller : Controller β ρ) :
    ((beginRun backend controller).value = .ok () ∧
        (beginRun backend controller).state.metrics = {}) ∨
      ∃ reason, (beginRun backend controller).value = .error reason ∧
        (beginRun backend controller).state.backend = none ∧
        ∃ reconnects, (beginRun backend controller).state.metrics =
          { controller.metrics with reconnects } := by
  cases found : locate controller.catalog backend with
  | error reason =>
    obtain ⟨value, state⟩ := beginRun_unlocated found
    obtain ⟨reconnects, left⟩ := exists_endRun_state controller
    rw [state, left]
    exact .inr ⟨reason, value, rfl, reconnects, rfl⟩
  | ok channels =>
    obtain ⟨value, state⟩ := beginRun_located found
    rw [state]
    exact .inl ⟨value, rfl⟩

end Beginnings

/-- One thing that was done with a controller, and what came of it. -/
inductive RunStep where
  | began (result : Except RunError Unit)
  | processed (event : Processed)
  | ended (metrics : Option RunMetrics)

/-- The summaries that count after one more step: a run that begins starts anew, and an event that
gets a summary adds it. -/
def RunStep.enter (summaries : List EventSummary) : RunStep → List EventSummary
  | began (.ok ()) => []
  | processed event => summaries ++ event.result.toOption.toList
  | began (.error _) | ended _ => summaries

/-- The summaries that were given since the last run began. -/
def summariesOf (steps : List RunStep) : List EventSummary :=
  steps.foldl RunStep.enter []

theorem summariesOf_concat (steps : List RunStep) (step : RunStep) :
    summariesOf (steps ++ [step]) = step.enter (summariesOf steps) := by
  rw [summariesOf, List.foldl_append, List.foldl_cons, List.foldl_nil, summariesOf]

/-- The controllers that come about with a catalog, with all that was done with them. The photons
that are collected may change in any way, and so may what the backend of the run works with. -/
inductive Drives [Backend β] [Response ρ] (catalog : Catalog) :
    List RunStep → Controller β ρ → Prop where
  | fresh (response : ρ) : Drives catalog [] { catalog, response }
  | beginRun {steps} {controller : Controller β ρ} (earlier : Drives catalog steps controller)
      (backend : β) : Drives catalog (steps ++ [.began (beginRun backend controller).value])
        (beginRun backend controller).state
  | beginRunBy {steps} {controller : Controller β ρ} (earlier : Drives catalog steps controller)
      (opening : Action Unit (Except RunError β)) :
      Drives catalog (steps ++ [.began (beginRunBy opening controller).value])
        (beginRunBy opening controller).state
  | collect {steps} {controller : Controller β ρ} (earlier : Drives catalog steps controller)
      (photons : PhotonBatch) : Drives catalog steps { controller with photons }
  | outside {steps} {controller : Controller β ρ} (earlier : Drives catalog steps controller)
      (change : β → β) :
      Drives catalog steps { controller with backend := controller.backend.map change }
  | processEvent {steps} {controller : Controller β ρ} (earlier : Drives catalog steps controller)
      (event : UInt32) :
      Drives catalog (steps ++ [.processed (processEvent event controller).value])
        (processEvent event controller).state
  | endRun {steps} {controller : Controller β ρ} (earlier : Drives catalog steps controller) :
      Drives catalog (steps ++ [.ended (endRun controller).value]) (endRun controller).state

section Books

variable [Backend β] {catalog : Catalog} {summaries : List EventSummary} {steps : List RunStep}
  {controller : Controller β ρ}

/-- What every operation keeps: the controller is sound, and its counters are the sums over the
summaries that were given. -/
structure Tallied (catalog : Catalog) (summaries : List EventSummary)
    (controller : Controller β ρ) : Prop where
  sound : Sound catalog controller
  counters : controller.metrics =
    { RunMetrics.total summaries with reconnects := controller.metrics.reconnects }
  /-- Reconnections are counted when the run is over. -/
  running : controller.isRunning → controller.metrics.reconnects = 0
  fair : ∀ summary ∈ summaries, summary.Fair

theorem Tallied.beginRun (tallied : Tallied catalog summaries controller) (backend : β) :
    Tallied catalog (RunStep.enter summaries (.began (beginRun backend controller).value))
      (beginRun backend controller).state := by
  have sound := tallied.sound.beginRun backend
  rcases beginRun_books backend controller with
    ⟨began, cleared⟩ | ⟨reason, failed, idle, reconnects, closed⟩
  · rw [began]
    exact {
      sound
      counters := by rw [cleared]; rfl
      running := fun _ => by rw [cleared]
      fair := fun _ member => nomatch member }
  · rw [failed]
    exact {
      sound
      counters := by rw [closed, tallied.counters]; rfl
      running := fun busy => by simp [isRunning, idle] at busy
      fair := tallied.fair }

theorem Tallied.beginRunBy (tallied : Tallied catalog summaries controller)
    (opening : Action Unit (Except RunError β)) :
    Tallied catalog (RunStep.enter summaries (.began (beginRunBy opening controller).value))
      (beginRunBy opening controller).state := by
  cases opened : (opening ()).value with
  | error reason => simpa [Controller.beginRunBy, opened, RunStep.enter] using tallied
  | ok backend => simpa [Controller.beginRunBy, opened] using tallied.beginRun backend

theorem Tallied.endRun (tallied : Tallied catalog summaries controller) :
    Tallied catalog summaries (endRun controller).state := by
  have sound := tallied.sound.endRun
  cases running : controller.backend with
  | none =>
    rwa [endRun_idle running]
  | some backend =>
    rw [(endRun_running running).2] at sound ⊢
    exact {
      sound
      counters := by rw [tallied.counters]
      running := fun running => by simp [isRunning] at running
      fair := tallied.fair }

variable [Response ρ]

/-- Processing an event begins no run. -/
theorem isRunning_of_processEvent {event : UInt32}
    (running : (processEvent event controller).state.isRunning) : controller.isRunning := by
  cases idle : controller.backend with
  | none => rwa [processEvent_idle idle] at running
  | some backend => simp [isRunning, idle]

theorem Tallied.processEvent (candid : Candid β)
    (tallied : Tallied catalog summaries controller) (event : UInt32) :
    Tallied catalog (RunStep.enter summaries (.processed (processEvent event controller).value))
      (processEvent event controller).state := by
  have sound := tallied.sound.processEvent event
  rcases processEvent_books tallied.sound event with
    ⟨backend, summary, -, booked⟩ | ⟨reason, refused, kept⟩
  · rw [RunStep.enter, booked.result]
    exact {
      sound
      counters := by
        simp only [Except.toOption, Option.toList_some]
        rw [booked.metrics, tallied.counters, RunMetrics.total_concat]
        rfl
      running := fun running => by
        rw [booked.metrics]
        exact tallied.running (isRunning_of_processEvent running)
      fair := fun other member => by
        rcases List.mem_append.mp member with earlier | last
        · exact tallied.fair other earlier
        · rw [List.mem_singleton.mp last]
          exact booked.fair candid }
  · rw [RunStep.enter, refused]
    simp only [Except.toOption, Option.toList_none, List.append_nil]
    exact {
      sound
      counters := by rw [kept]; exact tallied.counters
      running := fun running => by
        rw [kept]
        exact tallied.running (isRunning_of_processEvent running)
      fair := tallied.fair }

/-- Whatever is done with a controller, its books are right. -/
theorem Drives.tallied (candid : Candid β) (drives : Drives catalog steps controller) :
    Tallied catalog (summariesOf steps) controller := by
  induction drives with
  | fresh response =>
    exact {
      sound := sound_fresh response
      counters := rfl
      running := fun _ => rfl
      fair := fun _ member => nomatch member }
  | beginRun earlier backend step =>
    rw [summariesOf_concat]
    exact step.beginRun backend
  | beginRunBy earlier opening step =>
    rw [summariesOf_concat]
    exact step.beginRunBy opening
  | collect earlier photons step => exact { step with sound := { step.sound with } }
  | outside earlier change step =>
    exact {
      sound := { step.sound with }
      counters := step.counters
      running := fun running => step.running (by simpa [isRunning] using running)
      fair := step.fair }
  | processEvent earlier event step =>
    rw [summariesOf_concat]
    exact step.processEvent candid event
  | endRun earlier step =>
    rw [summariesOf_concat]
    exact step.endRun

/-- What the books of a controller say after some steps. -/
structure Accounts (steps : List RunStep) (controller : Controller β ρ) : Prop where
  /-- Every counter but that of the reconnections is the sum over the summaries. -/
  counters : controller.metrics = { RunMetrics.total (summariesOf steps) with
    reconnects := controller.metrics.reconnects }
  running : controller.isRunning → controller.metrics = RunMetrics.total (summariesOf steps)
  conserved : controller.metrics.hitsRecorded + controller.metrics.droppedSamples =
    controller.metrics.photoelectronsReceived
  bounded : controller.metrics.failedEvents + controller.metrics.deferredEvents ≤
    controller.metrics.events
  /-- An event that failed or was deferred adds no photoelectrons and no hits. -/
  silent : ∀ summary ∈ summariesOf steps, summary.outcome ≠ .complete →
    summary.photoelectrons = 0 ∧ summary.hits = 0
  /-- An event without a summary adds nothing at all. -/
  refused : ∀ event reason, (processEvent event controller).value.result = .error reason →
    (processEvent event controller).value.hits = [] ∧
      (processEvent event controller).state.metrics = controller.metrics
  /-- The report of the run has these counters, and the reconnections of the backend, which has
  ended its run then. -/
  ended : ∀ backend, controller.backend = some backend →
    (endRun controller).value = some { RunMetrics.total (summariesOf steps) with
      reconnects := Backend.reconnects (Backend.endRun backend).state }

theorem Tallied.accounts (tallied : Tallied catalog (summariesOf steps) controller) :
    Accounts steps controller := by
  obtain ⟨sound, counters, running, fair⟩ := tallied
  have conserved := RunMetrics.total_conserved fair
  have bounded := RunMetrics.total_bounded (summariesOf steps)
  constructor
  case counters => exact counters
  case running =>
    intro busy
    rw [counters, running busy]
    rfl
  case conserved =>
    rw [counters]
    exact conserved
  case bounded =>
    rw [counters]
    exact bounded
  case silent =>
    intro summary member incomplete
    have none := (fair summary member).silent incomplete
    have all := (fair summary member).conserved
    exact ⟨none, by omega⟩
  case refused =>
    intro event reason failed
    rcases processEvent_books sound event with ⟨_, summary, -, booked⟩ | ⟨_, refused, kept⟩
    · rw [booked.result] at failed
      exact nomatch failed
    · exact ⟨by rw [refused], kept⟩
  case ended =>
    intro backend busy
    rw [(endRun_running busy).1, counters]

/-- A controller over clients and readers keeps its books right. -/
theorem books_add_up {σ : Type} {controller : Controller (LiveBackend σ ⊕ RecordingReader) ρ}
    (drives : Drives catalog steps controller) : Accounts steps controller :=
  (drives.tallied (LiveBackend.candid.sum RecordingReader.candid)).accounts

/-- The books of a run over a recording of one event: that event is asked for, then one that is out
of order, and then the run is over. -/
theorem books_add_up_recorded :
    let catalog : Catalog := ⟨["default"], #[{ id := 0, position := Point.zero }]⟩
    let batch : PhotoelectronBatch := PhotoelectronBatch.empty.push
      ⟨0, ⟨0x41200000⟩, ⟨0x43c80000⟩, ⟨⟨0⟩, ⟨0⟩, ⟨0x3f800000⟩⟩, ⟨⟨0⟩, ⟨0x3f800000⟩, ⟨0⟩⟩, 0⟩
    let events := { Recording.Schema.events with rows := [(0, RecordingTable.eventCells batch)] }
    let positions := { Recording.Schema.positions with
      rows := [(0, [.real 0.0, .real 0.0, .real 0.0])] }
    let reader := RecordingReader.ofTable ⟨{ relations := [events, positions] }, false⟩
    let fresh : Controller (LiveBackend Unit ⊕ RecordingReader) IdealResponse :=
      { catalog, response := IdealResponse.mk }
    let begun := beginRun (.inr reader) fresh
    let recorded := processEvent 0 begun.state
    let refused := processEvent 5 recorded.state
    let ended := endRun refused.state
    let steps : List RunStep := [.began begun.value, .processed recorded.value,
      .processed refused.value, .ended ended.value]
    Drives catalog steps ended.state ∧ Accounts steps ended.state := by
  intro catalog batch events positions reader fresh begun recorded refused ended steps
  have opened : Drives catalog [] fresh := .fresh IdealResponse.mk
  have drives : Drives catalog steps ended.state :=
    (((opened.beginRun (.inr reader)).processEvent 0).processEvent 5).endRun
  exact ⟨drives, books_add_up drives⟩

end Books

end Controller

end PhotonFerry
