import PhotonFerry.Backend.Prepared
import PhotonFerry.Proofs.Run.Reachable
import PhotonFerry.Proofs.Sample.Listing
/-!
# Harvesting an event

With a controller that can be reached, every channel that is mapped leads to a
photomultiplier of the catalog, so that harvesting never fails: the hits are
those of the samples on mapped channels, one for each and in their order. A hit
shows its own sample and the photomultiplier of its channel, and what the
response picks for them. An answer that fails or is for another event gives no
hit and counts for nothing.
-/

namespace PhotonFerry

/-- The process that a mask tells of. Reemission hides Cherenkov light, and Cherenkov
light hides scintillation. -/
structure Origin.ToldBy (origin : Origin) (flags : UInt32) : Prop where
  reemission : origin = .reemission ↔ flags &&& ProcessBit.reemit ≠ 0
  cherenkov : origin = .cherenkov ↔
    flags &&& ProcessBit.reemit = 0 ∧ flags &&& ProcessBit.cherenkov ≠ 0
  scintillation : origin = .scintillation ↔
    flags &&& ProcessBit.reemit = 0 ∧ flags &&& ProcessBit.cherenkov = 0 ∧
      flags &&& ProcessBit.scintillation ≠ 0

/-- Every mask tells of one process. -/
theorem Origin.toldBy_iff {origin : Origin} {flags : UInt32} :
    origin.ToldBy flags ↔ origin = .ofFlags flags := by
  by_cases reemitted : flags &&& ProcessBit.reemit = 0
  all_goals by_cases cherenkov : flags &&& ProcessBit.cherenkov = 0
  all_goals by_cases scintillated : flags &&& ProcessBit.scintillation = 0
  all_goals
    constructor
    · rintro ⟨ofReemission, ofCherenkov, ofScintillation⟩
      cases origin <;> simp_all [ofFlags]
    · rintro rfl
      constructor <;> simp [ofFlags, *]

/-- A hit was made of a sample and of the photomultiplier with an id. It shows what is
theirs, and what the response picks for them: first the time at the front end and then
the charge. -/
structure Hit.MadeOf {ρ : Type} [Response ρ] (hit : Hit) (sample : Photoelectron) (id : UInt32)
    (target : Photomultiplier) (before after : ρ) : Prop where
  id : hit.id = id
  kind : hit.kind = target.kind
  position : hit.position = target.position
  wavelength : hit.wavelength = sample.wavelength.widen
  /-- A photon without a positive wavelength has no momentum. -/
  momentum : hit.momentum =
    if 0.0 < sample.wavelength.widen then
      sample.direction.widen.scale (Optics.hc / sample.wavelength.widen)
    else Point.zero
  polarization : hit.polarization = sample.polarization.widen
  hitTime : hit.hitTime = sample.time.widen
  /-- The time is picked first, and the charge with what this leaves of the response. -/
  picked : ∃ between,
    Response.pickTime target.model sample.time.widen before = (hit.frontEndTime, between) ∧
      ∃ charge, Response.pickCharge target.model between = (charge, after) ∧
        hit.charge = target.chargeScale * charge
  creator : hit.creator.ToldBy sample.flags

theorem Hit.of_madeOf {ρ : Type} [Response ρ] (sample : Photoelectron) (id : UInt32)
    (target : Photomultiplier) (response : ρ) :
    (Hit.of sample id target response).1.MadeOf sample id target response
      (Hit.of sample id target response).2 where
  id := rfl
  kind := rfl
  position := rfl
  wavelength := rfl
  momentum := rfl
  polarization := rfl
  hitTime := rfl
  picked := ⟨_, rfl, _, rfl, rfl⟩
  creator := Origin.toldBy_iff.mpr rfl

namespace Controller

variable {β ρ : Type}

/-- The samples on channels with a photomultiplier, each with its id. -/
def mapped (channels : ChannelMap) (samples : List Photoelectron) : List (Photoelectron × UInt32) :=
  samples.filterMap fun sample => (channels.get sample.channel).map fun id => (sample, id)

/-- The samples on channels without a photomultiplier. -/
def unmapped (channels : ChannelMap) (samples : List Photoelectron) : List Photoelectron :=
  samples.filter fun sample => (channels.get sample.channel).isNone

/-- Every sample is on one kind of channel. -/
theorem length_mapped_add_length_unmapped (channels : ChannelMap) (samples : List Photoelectron) :
    (mapped channels samples).length + (unmapped channels samples).length = samples.length := by
  induction samples with
  | nil => rfl
  | cons sample rest step =>
    cases found : channels.get sample.channel with
    | none => simp [mapped, unmapped, found] at step ⊢; omega
    | some id => simp [mapped, unmapped, found] at step ⊢; omega

/-- Hits are built of samples in their order, each from its own sample and the
photomultiplier with its id; the response goes from one to the next. -/
inductive Built [Response ρ] (catalog : Catalog) :
    List (Photoelectron × UInt32) → (before : ρ) → List Hit → (after : ρ) → Prop where
  | nil {response : ρ} : Built catalog [] response [] response
  | cons {sample : Photoelectron} {id : UInt32} {target : Photomultiplier}
      {rest : List (Photoelectron × UInt32)} {before between after : ρ} {hit : Hit}
      {hits : List Hit} (found : catalog.find? id = some target) (numbered : target.id = id)
      (made : hit.MadeOf sample id target before between)
      (later : Built catalog rest between hits after) :
      Built catalog ((sample, id) :: rest) before (hit :: hits) after

variable [Response ρ]

/-- There is one hit for each sample, on the photomultiplier of its channel. -/
theorem Built.ids {catalog : Catalog} {samples : List (Photoelectron × UInt32)} {before after : ρ}
    {hits : List Hit} (built : Built catalog samples before hits after) :
    hits.map Hit.id = samples.map Prod.snd := by
  induction built with
  | nil => rfl
  | cons found numbered made later step => rw [List.map_cons, List.map_cons, step, made.id]

/-- When every mapped channel leads into the catalog, harvesting succeeds. -/
theorem exists_harvest {channels : ChannelMap} {catalog : Catalog}
    (leads : channels.LeadsInto catalog) (event : UInt32) (response : ρ)
    (samples : List Photoelectron) :
    ∃ harvested, harvest channels catalog event response samples = .ok harvested ∧
      Built catalog (mapped channels samples) response harvested.hits harvested.response ∧
      harvested.dropped = (unmapped channels samples).length := by
  induction samples generalizing response with
  | nil => exact ⟨_, rfl, .nil, rfl⟩
  | cons sample rest step =>
    cases found : channels.get sample.channel with
    | none =>
      obtain ⟨later, harvested, built, dropped⟩ := step response
      simp only [harvest, found, harvested]
      refine ⟨_, rfl, ?_, ?_⟩
      · simpa [mapped, found] using built
      · simp [unmapped, found, dropped]
    | some id =>
      obtain ⟨target, stands, numbered⟩ := leads _ _ found
      obtain ⟨later, harvested, built, dropped⟩ := step (Hit.of sample id target response).2
      simp only [harvest, found, stands, harvested]
      refine ⟨_, rfl, ?_, ?_⟩
      · simpa [mapped, found] using
          Built.cons stands numbered (Hit.of_madeOf sample id target response) built
      · simpa [unmapped, found] using dropped

section Events

variable [Backend β]

/-- What the backend of a run answers to the photons that were collected. -/
def ask (controller : Controller β ρ) (event : UInt32) (backend : β) :
    Traced β (Except RunError Outcome × PhotoelectronBatch) :=
  Backend.propagate (controller.photons.setEvent event) controller.photoelectrons backend

/-- The controller after an event: nothing is collected any more, and the backend
is as it was left by its answer. -/
def settled (controller : Controller β ρ) (event : UInt32)
    (answered : Traced β (Except RunError Outcome × PhotoelectronBatch)) : Controller β ρ :=
  { controller with
    photons := { event }
    photoelectrons := { event := answered.value.2.event }
    backend := some answered.state }

omit [Response ρ] in
theorem clearEvent_propagate {controller : Controller β ρ} {event : UInt32} {backend : β} :
    (clearEvent (propagate backend event controller).state).state =
      controller.settled event (controller.ask event backend) := rfl

/-- What is counted of an event: each photoelectron as a hit or as dropped. -/
def tally (controller : Controller β ρ) (event : UInt32) (outcome : Outcome)
    (batch : PhotoelectronBatch) : EventSummary where
  event
  photons := controller.photons.size
  photoelectrons := batch.size
  hits := (mapped controller.channels batch.toList).length
  dropped := (unmapped controller.channels batch.toList).length
  outcome

/-- An event that gave no hit and is counted nowhere. The run goes on. -/
structure GivenUp (before : Controller β ρ) (event : UInt32)
    (answered : Traced β (Except RunError Outcome × PhotoelectronBatch)) (reason : RunError)
    (after : Traced (Controller β ρ) Processed) : Prop where
  value : after.value = ⟨.error reason, []⟩
  state : after.state = before.settled event answered

/-- An event whose photoelectrons were harvested. -/
structure Harvested (before : Controller β ρ) (event : UInt32)
    (answered : Traced β (Except RunError Outcome × PhotoelectronBatch)) (outcome : Outcome)
    (after : Traced (Controller β ρ) Processed) : Prop where
  result : after.value.result = .ok (before.tally event outcome answered.value.2)
  hits : Built before.catalog (mapped before.channels answered.value.2.toList) before.response
    after.value.hits after.state.response
  ids : after.value.hits.map Hit.id =
    (mapped before.channels answered.value.2.toList).map Prod.snd
  lossless : after.value.hits.length + (unmapped before.channels answered.value.2.toList).length =
    answered.value.2.size
  state : after.state = { before.settled event answered with
    response := after.state.response
    metrics := before.metrics.record (before.tally event outcome answered.value.2) }

variable {catalog : Catalog} {controller : Controller β ρ} {backend : β} {event : UInt32}
  {outcome : Outcome}

theorem givenUp_of_failed {reason : RunError} (running : controller.backend = some backend)
    (failed : (controller.ask event backend).value.1 = .error reason) :
    GivenUp controller event (controller.ask event backend) reason
      (processEvent event controller) where
  value := (processEvent_failed running failed).1
  state := (processEvent_failed running failed).2.trans clearEvent_propagate

theorem harvested_of_own (sound : Sound catalog controller)
    (leads : controller.channels.LeadsInto catalog) (running : controller.backend = some backend)
    (answered : (controller.ask event backend).value.1 = .ok outcome)
    (own : (controller.ask event backend).value.2.event = event) :
    Harvested controller event (controller.ask event backend) outcome
      (processEvent event controller) := by
  have listed : (controller.ask event backend).value.2.toList.length =
      (controller.ask event backend).value.2.size :=
    PhotoelectronBatch.length_toList (Backend.aligned_propagate _ backend sound.aligned)
  obtain ⟨harvested, made, built, dropped⟩ := exists_harvest
    (sound.catalog.symm ▸ leads) event controller.response
    (controller.ask event backend).value.2.toList
  have count : harvested.hits.length =
      (mapped controller.channels (controller.ask event backend).value.2.toList).length := by
    simpa using congrArg List.length built.ids
  have summary : (propagate backend event controller).state.summarize event outcome harvested =
      controller.tally event outcome (controller.ask event backend).value.2 := by
    simp only [summarize, tally, count, dropped]
    rfl
  have value : (processEvent event controller).value =
      ⟨.ok (controller.tally event outcome (controller.ask event backend).value.2),
        harvested.hits⟩ := by
    rw [(processEvent_own running answered own).1,
      (recordHits_harvested (propagate backend event controller).state made).1, summary]
  have state : (processEvent event controller).state = { controller.settled event
      (controller.ask event backend) with
        response := harvested.response
        metrics := controller.metrics.record
          (controller.tally event outcome (controller.ask event backend).value.2) } := by
    rw [(processEvent_own running answered own).2,
      (recordHits_harvested (propagate backend event controller).state made).2, summary]
    rfl
  have response : (processEvent event controller).state.response = harvested.response := by
    rw [state]
  constructor
  case result => rw [value]
  case hits =>
    rw [value, response]
    exact built
  case ids =>
    rw [value]
    exact built.ids
  case lossless =>
    rw [value, count, length_mapped_add_length_unmapped, listed]
  case state => rw [response, state]

end Events

end Controller

end PhotonFerry
