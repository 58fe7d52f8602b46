import PhotonFerry.Backend.Basic
import PhotonFerry.Detector.Hit
import PhotonFerry.Run.Metrics
import PhotonFerry.Sample.Photon
/-!
# Runs

A controller collects the photons of an event, hands them to the backend of the
run, and makes one hit of every photoelectron on a channel that has a
photomultiplier. It drives one run at a time. A backend whose run began is told
once when the run is over, and is not used after that; a backend whose run could
not begin is not used at all.
-/

namespace PhotonFerry

/-- A controller for backends `β` and a response `ρ`. -/
structure Controller (β ρ : Type) where
  catalog : Catalog
  response : ρ
  /-- The backend of the run in progress. -/
  backend : Option β := none
  channels : ChannelMap := {}
  /-- The photons of the event that is being collected. -/
  photons : PhotonBatch := .empty
  /-- The photoelectrons of the event that is being processed. -/
  photoelectrons : PhotoelectronBatch := .empty
  metrics : RunMetrics := {}

/-- What became of the photoelectrons of an event. -/
structure Harvest (ρ : Type) where
  hits : List Hit
  dropped : Nat
  response : ρ
  journal : Journal

/-- What processing an event gives: its summary, and the hits it recorded. -/
structure Processed where
  result : Except RunError EventSummary
  hits : List Hit

namespace Controller

variable {β ρ : Type} [Backend β] [Response ρ]

/-- Whether a run is in progress. -/
def isRunning (controller : Controller β ρ) : Bool :=
  controller.backend.isSome

/-- Make hits of photoelectrons, in their order. -/
def harvest (channels : ChannelMap) (catalog : Catalog) (event : UInt32) (response : ρ) :
    List Photoelectron → Except RunError (Harvest ρ)
  | [] => .ok ⟨[], 0, response, []⟩
  | sample :: rest =>
    match channels.get sample.channel with
    | none =>
      match harvest channels catalog event response rest with
      | .error reason => .error reason
      | .ok later =>
        let entry : LogRecord := ⟨.debug, .run,
          s!"Event {event.toNat}: dropping PE on unmapped channel {sample.channel.toNat}"⟩
        .ok { later with dropped := later.dropped + 1, journal := entry :: later.journal }
    | some id =>
      match catalog.find? id with
      | none => .error (.unknownPmt id)
      | some target =>
        let (hit, response) := Hit.of sample id target response
        match harvest channels catalog event response rest with
        | .error reason => .error reason
        | .ok later => .ok { later with hits := hit :: later.hits }

/-- Drop the photons and the photoelectrons of the event. -/
def clearEvent : Action (Controller β ρ) Unit :=
  Action.modify fun controller => { controller with
    photons := controller.photons.clear
    photoelectrons := controller.photoelectrons.clear }

/-- End the run in progress, if there is one, and report on it. -/
def endRun : Action (Controller β ρ) (Option RunMetrics) := fun controller =>
  match controller.backend with
  | none => ⟨none, controller, []⟩
  | some backend =>
    let ended := Backend.endRun backend
    let metrics := { controller.metrics with reconnects := Backend.reconnects ended.state }
    ⟨some metrics, { controller with backend := none, metrics },
      ended.journal ++ [⟨.info, .metrics, metrics.summaryText⟩]⟩

/-- Match a backend's geometry and begin its run. -/
def install (backend : β) : Action (Controller β ρ) (Except RunError Unit) := fun controller =>
  let asked := Backend.positions backend
  match asked.value with
  | .error reason => ⟨.error reason, controller, asked.journal⟩
  | .ok points =>
    let matching := ChannelMap.reconcile points controller.catalog.positions
      ChannelMap.runTolerance ()
    match matching.value with
    | .error reason =>
      ⟨.error (.geometry reason), controller, asked.journal ++ matching.journal⟩
    | .ok channels =>
      if channels.matched = 0 then
        ⟨.error (.noPmtMatched points.length), controller, asked.journal ++ matching.journal⟩
      else
        let name := Backend.name asked.state
        let entry : LogRecord := ⟨.info, .run,
          s!"Run started with {name} backend: {channels.matched}/{channels.size} PMTs matched"⟩
        ⟨.ok (), { controller with
            channels
            photons := controller.photons.clear
            photoelectrons := controller.photoelectrons.clear
            metrics := {}
            backend := some asked.state },
          asked.journal ++ matching.journal ++ [entry]⟩

/-- Begin a run with a backend; a run in progress is ended first. -/
def beginRun (backend : β) : Action (Controller β ρ) (Except RunError Unit) := do
  let controller ← Action.get
  if controller.isRunning then
    Action.warn .run "Run already in progress, ending it first"
    let _ ← endRun
  install backend

/-- Begin a run with a backend that is still to be opened. If it does not open,
a run in progress goes on. -/
def beginRunBy (opening : Action Unit (Except RunError β)) :
    Action (Controller β ρ) (Except RunError Unit) := do
  match ← Action.within (fun _ => ()) (fun _ controller => controller) opening with
  | .error reason => return .error reason
  | .ok backend => beginRun backend

/-- Add a photon to the event that is being collected. -/
def addPhoton (position direction polarization : Point Float) (wavelength time : Float)
    (origin : Origin) : Action (Controller β ρ) Unit :=
  Action.modify fun controller => { controller with
    photons := controller.photons.add position direction polarization wavelength time origin }

/-- Let the backend of the run answer the photons that were collected. -/
def propagate (backend : β) (event : UInt32) :
    Action (Controller β ρ) (Except RunError Outcome) := fun controller =>
  let photons := controller.photons.setEvent event
  let answered := Backend.propagate photons controller.photoelectrons backend
  ⟨answered.value.1, { controller with
      photons
      photoelectrons := answered.value.2
      backend := some answered.state }, answered.journal⟩

/-- The summary of an event whose hits were made. -/
def summarize (controller : Controller β ρ) (event : UInt32) (outcome : Outcome)
    (harvested : Harvest ρ) : EventSummary where
  event
  photons := controller.photons.size
  photoelectrons := controller.photoelectrons.size
  hits := harvested.hits.length
  dropped := harvested.dropped
  outcome

/-- Make hits of the photoelectrons that were answered. -/
def recordHits (event : UInt32) (outcome : Outcome) : Action (Controller β ρ) Processed := do
  let controller ← Action.get
  match harvest controller.channels controller.catalog event controller.response
      controller.photoelectrons.toList with
  | .error reason => return ⟨.error reason, []⟩
  | .ok harvested =>
    Action.report harvested.journal
    if 0 < harvested.dropped then
      Action.warn .run s!"Event {event.toNat}: dropped {harvested.dropped} PE on unmapped channels"
    let summary := controller.summarize event outcome harvested
    Action.modify fun after => { after with
      response := harvested.response
      metrics := after.metrics.record summary }
    return ⟨.ok summary, harvested.hits⟩

/-- Process the photons that were collected as one event. Afterwards there are
neither photons nor photoelectrons, however it ends. -/
def processEvent (event : UInt32) : Action (Controller β ρ) Processed := do
  let controller ← Action.get
  match controller.backend with
  | none => return ⟨.error .noActiveRun, []⟩
  | some backend =>
    match ← propagate backend event with
    | .error reason =>
      clearEvent
      return ⟨.error reason, []⟩
    | .ok outcome =>
      let answered ← Action.get
      if answered.photoelectrons.event ≠ event then
        clearEvent
        return ⟨.error (.eventMismatch event answered.photoelectrons.event), []⟩
      let processed ← recordHits event outcome
      clearEvent
      return processed

section Beginnings

variable {controller : Controller β ρ}

omit [Response ρ]

/-- A controller without a run begins one at once. -/
theorem beginRun_idle (idle : ¬ controller.isRunning) (backend : β) :
    beginRun backend controller = install backend controller := by
  simp [beginRun, idle]

/-- A controller with a run ends it first. -/
theorem beginRun_running (running : controller.isRunning) (backend : β) :
    (beginRun backend controller).value = (install backend (endRun controller).state).value ∧
      (beginRun backend controller).state = (install backend (endRun controller).state).state := by
  simp [beginRun, running, Action.warn]

theorem endRun_idle (idle : controller.backend = none) :
    endRun controller = ⟨none, controller, []⟩ := by
  simp [endRun, idle]

theorem endRun_running {backend : β} (running : controller.backend = some backend) :
    let metrics := { controller.metrics with
      reconnects := Backend.reconnects (Backend.endRun backend).state }
    (endRun controller).value = some metrics ∧
      (endRun controller).state = { controller with backend := none, metrics } := by
  simp [endRun, running]

end Beginnings

section Specs

variable {controller : Controller β ρ} {event : UInt32} {outcome : Outcome}

omit [Backend β] in
theorem recordHits_failed {reason : RunError}
    (failed : harvest controller.channels controller.catalog event controller.response
      controller.photoelectrons.toList = .error reason) :
    recordHits event outcome controller = ⟨⟨.error reason, []⟩, controller, []⟩ := by
  simp [recordHits, failed]

omit [Backend β] in
theorem recordHits_harvested (controller : Controller β ρ) {harvested : Harvest ρ}
    (made : harvest controller.channels controller.catalog event controller.response
      controller.photoelectrons.toList = .ok harvested) :
    (recordHits event outcome controller).value =
        ⟨.ok (controller.summarize event outcome harvested), harvested.hits⟩ ∧
      (recordHits event outcome controller).state = { controller with
        response := harvested.response
        metrics := controller.metrics.record (controller.summarize event outcome harvested) } := by
  by_cases lost : 0 < harvested.dropped
  · simp [recordHits, made, lost, summarize, Action.warn]
  · simp [recordHits, made, lost, summarize]

theorem processEvent_idle (idle : controller.backend = none) :
    processEvent event controller = ⟨⟨.error .noActiveRun, []⟩, controller, []⟩ := by
  simp [processEvent, idle]

variable {backend : β}

theorem processEvent_failed {reason : RunError} (running : controller.backend = some backend)
    (failed : (propagate backend event controller).value = .error reason) :
    (processEvent event controller).value = ⟨.error reason, []⟩ ∧
      (processEvent event controller).state =
        (clearEvent (propagate backend event controller).state).state := by
  simp [processEvent, running, failed]

theorem processEvent_foreign (running : controller.backend = some backend)
    (answered : (propagate backend event controller).value = .ok outcome)
    (foreign : (propagate backend event controller).state.photoelectrons.event ≠ event) :
    (processEvent event controller).value = ⟨.error (.eventMismatch event
        (propagate backend event controller).state.photoelectrons.event), []⟩ ∧
      (processEvent event controller).state =
        (clearEvent (propagate backend event controller).state).state := by
  simp [processEvent, running, answered, foreign]

theorem processEvent_own (running : controller.backend = some backend)
    (answered : (propagate backend event controller).value = .ok outcome)
    (own : (propagate backend event controller).state.photoelectrons.event = event) :
    (processEvent event controller).value =
        (recordHits event outcome (propagate backend event controller).state).value ∧
      (processEvent event controller).state = (clearEvent
        (recordHits event outcome (propagate backend event controller).state).state).state := by
  simp [processEvent, running, answered, own]

end Specs

end Controller

end PhotonFerry
