import PhotonFerry.Proofs.Client.Termination
import PhotonFerry.Proofs.Run.Agreement
import PhotonFerry.Proofs.Run.Ledger
/-!
# Live runs withstand their transport

Nothing that a transport does to an event reaches whoever processes it: the event gets a
summary, the run goes on, and the client is where it was. Three facts meet here. A client
labels what it hands out with the event that it was asked for, however its exchange
ends; the channels of a run that was begun lead into its catalog, so that no harvest
fails; and an exchange puts its client back where it was.
-/

namespace PhotonFerry

section Propagation

variable {σ τ α : Type}

/-- An exchange that ends does so when it is watched. -/
theorem RetryLoop.exists_endsIn_of_ends {loop : RetryLoop σ τ α} {memory : τ}
    {session : Session σ} (ends : loop.Ends (.start memory) session) :
    ∃ outcome, loop.EndsIn memory session outcome := by
  obtain ⟨steps, result, ended⟩ := ends
  have mirrored : (loop.watched.run steps (.start memory) session.watched).value.stage =
      .ended result :=
    (congrArg (fun reached => reached.value.stage)
      (loop.mirrors_run steps (.start memory) session.watched)).trans ended
  exact ⟨_, endsIn_outcomeAfter mirrored⟩

variable {caller : Caller σ} {session : Session σ} {photons : PhotonBatch}
  {out : PhotoelectronBatch} {performance : Performance σ}

/-- However a propagation goes, what is handed out is for its event, and empty unless the event
is complete. -/
theorem Performs.handed (performed : Performs caller session (.propagate photons out) performance) :
    ∃ outcome batch, performance.answer = .propagated (outcome, batch) ∧
      batch.event = photons.event ∧ (outcome ≠ .complete → batch = { event := photons.event }) := by
  cases performed with
  | unready unready => exact ⟨.failed, _, rfl, rfl, fun _ => rfl⟩
  | propagate ready shipped =>
    have own := Client.ownPhotoelectrons_of_settles shipped
    exact ⟨_, _, rfl, own.event, own.empty⟩

/-- However a propagation goes, it leaves its client where that was. -/
theorem Performs.phase_kept
    (performed : Performs caller session (.propagate photons out) performance) :
    performance.after.phase = session.phase := by
  cases performed with
  | unready unready => rfl
  | propagate ready shipped => exact ready.symm

/-- A propagation comes to an end if the client is not ready, or if whenever it waits only so many
messages arrive in a row. -/
theorem Performs.exists_of_dry (out : PhotoelectronBatch)
    (dry : session.phase = .ready →
      (caller.photonData photons).Dry (.start out) (session.inPhase .awaitingReply)) :
    ∃ performance, Performs caller session (.propagate photons out) performance := by
  by_cases ready : session.phase = .ready
  · obtain ⟨outcome, ended⟩ := RetryLoop.exists_endsIn_of_ends (RetryLoop.ends_of_dry (dry ready))
    exact ⟨_, .propagate ready ended⟩
  · exact ⟨_, .unready ready⟩

end Propagation

namespace Controller

variable {σ β ρ : Type}

section Harvests

variable [Response ρ]

/-- A harvest fails on no channel that leads to a place of the catalog. -/
theorem exists_harvest_of_within {channels : ChannelMap} {catalog : Catalog}
    (within : channels.Within catalog.size) (event : UInt32) (response : ρ)
    (samples : List Photoelectron) :
    ∃ harvested, harvest channels catalog event response samples = .ok harvested := by
  induction samples generalizing response with
  | nil => exact ⟨_, rfl⟩
  | cons sample rest step =>
    cases found : channels.get sample.channel with
    | none =>
      obtain ⟨later, made⟩ := step response
      simp only [harvest, found, made]
      exact ⟨_, rfl⟩
    | some id =>
      have bound : id.toNat < catalog.entries.size := within _ id found
      have stands : catalog.find? id = some catalog.entries[id.toNat] :=
        Array.getElem?_eq_getElem bound
      obtain ⟨later, made⟩ := step (Hit.of sample id catalog.entries[id.toNat] response).2
      simp only [harvest, found, stands, made]
      exact ⟨_, rfl⟩

end Harvests

section LiveRuns

variable [Backend β] [Response ρ]

/-- The runs over the backends of the sessions of a caller, each with its session. A run is begun
by a controller that can be reached. Then photons are collected, the world outside changes at any
time, and events are processed as long as their exchanges come to an end. -/
inductive LiveRun (caller : Caller σ) (backendOf : Session σ → β) (catalog : Catalog) :
    Controller β ρ → Session σ → Prop where
  | begun {controller : Controller β ρ} {session after : Session σ}
      (reachable : Reachable catalog controller)
      (begun : (beginRun (backendOf session) controller).value = .ok ())
      (located : (Backend.positions (backendOf session)).state = backendOf after) :
      LiveRun caller backendOf catalog (beginRun (backendOf session) controller).state after
  | collect {controller : Controller β ρ} {session : Session σ} (photons : PhotonBatch)
      (earlier : LiveRun caller backendOf catalog controller session) :
      LiveRun caller backendOf catalog { controller with photons } session
  | outside {controller : Controller β ρ} {session : Session σ} (world : σ)
      (earlier : LiveRun caller backendOf catalog controller session) :
      LiveRun caller backendOf catalog
        { controller with backend := some (backendOf { session with world }) }
        { session with world }
  | processEvent {controller : Controller β ρ} {session : Session σ} {event : UInt32}
      {performance : Performance σ}
      (earlier : LiveRun caller backendOf catalog controller session)
      (performed : Performs caller session
        (.propagate (controller.photons.setEvent event) controller.photoelectrons) performance) :
      LiveRun caller backendOf catalog (processEvent event controller).state performance.after

/-- An event that is processed in spite of whatever its propagation met. -/
structure Withstands (backendOf : Session σ → β) (event : UInt32) (session : Session σ)
    (performance : Performance σ) (after : Traced (Controller β ρ) Processed) : Prop where
  /-- The event gets a summary, with the outcome that the client found. -/
  summary : ∃ summary batch, after.value.result = .ok summary ∧ summary.event = event ∧
    performance.answer = .propagated (summary.outcome, batch) ∧
    (summary.outcome ≠ .complete → summary.photoelectrons = 0 ∧ summary.hits = 0 ∧
      summary.dropped = 0 ∧ after.value.hits = [])
  /-- The run goes on, over the session that is left. -/
  running : after.state.backend = some (backendOf performance.after)
  /-- The client is where it was. -/
  phase : performance.after.phase = session.phase

variable {caller : Caller σ} {backendOf : Session σ → β} {catalog : Catalog}
  {controller : Controller β ρ} {session : Session σ} {event : UInt32}
  {performance : Performance σ}

/-- An event is withstood by a controller that runs over the session and is sound. -/
theorem withstands_of_sound (acting : ActsFor caller backendOf) (sound : Sound catalog controller)
    (running : controller.backend = some (backendOf session))
    (performed : Performs caller session
      (.propagate (controller.photons.setEvent event) controller.photoelectrons) performance) :
    Withstands backendOf event session performance (processEvent event controller) := by
  obtain ⟨outcome, batch, answer, own, empty⟩ := performed.handed
  have phase := performed.phase_kept
  obtain ⟨answer', begun, calls, after⟩ := performance
  obtain rfl : answer' = .propagated (outcome, batch) := answer
  obtain ⟨value, state⟩ := acting.propagate performed
  have answered : Answered controller event outcome batch _ (processEvent event controller) :=
    answered_of_own running value own
  obtain ⟨harvested, made⟩ := exists_harvest_of_within
    (sound.catalog ▸ sound.channels : controller.channels.Within controller.catalog.size)
    event controller.response batch.toList
  have reported : (processEvent event controller).value = report event outcome
      controller.photons.size batch (.ok harvested) := by rw [answered.value, made]
  have running : (processEvent event controller).state.backend = some (backendOf after) := by
    rw [answered.backend]
    exact congrArg some state
  refine ⟨⟨_, batch, congrArg Processed.result reported, rfl, rfl, fun incomplete => ?_⟩, running,
    phase⟩
  have nothing : batch.size = 0 ∧ batch.toList = [] := by
    rw [empty incomplete]
    exact ⟨rfl, rfl⟩
  have count := length_of_harvest made
  rw [nothing.2, List.length_nil, Nat.add_eq_zero_iff] at count
  refine ⟨nothing.1, count.1, count.2, ?_⟩
  rw [reported]
  exact List.length_eq_zero_iff.mp count.1

/-- A live run is sound, and is over its session. -/
theorem LiveRun.sound (acting : ActsFor caller backendOf)
    (live : LiveRun caller backendOf catalog controller session) :
    Sound catalog controller ∧ controller.backend = some (backendOf session) := by
  induction live with
  | begun reachable begun located =>
    exact ⟨reachable.sound.beginRun _, by rw [(begun_of_beginRun begun).backend, located]⟩
  | collect photons earlier step => exact ⟨{ step.1 with }, step.2⟩
  | outside world earlier step => exact ⟨{ step.1 with }, rfl⟩
  | processEvent earlier performed step =>
    exact ⟨step.1.processEvent _, (withstands_of_sound acting step.1 step.2 performed).running⟩

end LiveRuns

section Clients

variable [Response ρ] {client : Client σ} {catalog : Catalog}

/-- A run that is begun with a client is a live run over the session that it has then. -/
theorem exists_liveRun_of_beginRun {controller : Controller (LiveBackend σ) ρ}
    {session : Session σ} (reachable : Reachable catalog controller)
    (begun : (beginRun (LiveBackend.mk client session) controller).value = .ok ()) :
    ∃ after, LiveRun client.caller (LiveBackend.mk client) catalog
      (beginRun (LiveBackend.mk client session) controller).state after := by
  refine ⟨(client.positions session).state, .begun reachable begun ?_⟩
  simp only [Backend.positions, LiveBackend.positions, LiveBackend.run, Action.bind_state,
    Action.within_apply]
  cases (client.positions session).value with
  | ok points => rfl
  | error reason => rfl

/-- Over any transport, nothing that happens to an event of a live run reaches whoever processes
it. Wherever the exchange for the event comes to an end, the event gets a summary, with no
photoelectrons, no hits and nothing dropped unless it is complete; the run goes on, and the client
is where it was. The exchange does end unless messages arrive in a row for ever. So it does over
every link: there every event of every run that was begun is withstood. -/
theorem live_failures_never_surface (caller : Caller σ) (catalog : Catalog) :
    (∀ {β : Type} [Backend β] {backendOf : Session σ → β}, ActsFor caller backendOf →
      ∀ (controller : Controller β ρ) (session : Session σ),
        LiveRun caller backendOf catalog controller session → ∀ event,
          let photons := controller.photons.setEvent event
          let out := controller.photoelectrons
          (∀ performance, Performs caller session (.propagate photons out) performance →
            Withstands backendOf event session performance (processEvent event controller)) ∧
          ((session.phase = .ready →
              (caller.photonData photons).Dry (.start out) (session.inPhase .awaitingReply)) →
            ∃ performance, Performs caller session (.propagate photons out) performance)) ∧
    ∀ client : Client σ, client.caller = caller →
      (∀ (controller : Controller (LiveBackend σ) ρ) (session : Session σ),
        Reachable catalog controller →
        (beginRun (LiveBackend.mk client session) controller).value = .ok () →
        ∃ after, LiveRun caller (LiveBackend.mk client) catalog
          (beginRun (LiveBackend.mk client session) controller).state after) ∧
      ∀ (controller : Controller (LiveBackend σ) ρ) (session : Session σ),
        LiveRun caller (LiveBackend.mk client) catalog controller session → ∀ event,
          ∃ performance, Performs caller session
              (.propagate (controller.photons.setEvent event) controller.photoelectrons)
              performance ∧
            Withstands (LiveBackend.mk client) event session performance
              (processEvent event controller) := by
  constructor
  · intro β _ backendOf acting controller session live event
    obtain ⟨sound, running⟩ := live.sound acting
    exact ⟨fun performance performed => withstands_of_sound acting sound running performed,
      Performs.exists_of_dry _⟩
  · rintro client rfl
    refine ⟨fun controller session => exists_liveRun_of_beginRun, ?_⟩
    intro controller session live event
    have acting := LiveBackend.actsFor client
    obtain ⟨sound, running⟩ := live.sound acting
    obtain ⟨-, begun, performed⟩ := client.performs
      (.propagate (controller.photons.setEvent event) controller.photoelectrons) session
    exact ⟨_, performed, withstands_of_sound acting sound running performed⟩

end Clients

end Controller

end PhotonFerry
