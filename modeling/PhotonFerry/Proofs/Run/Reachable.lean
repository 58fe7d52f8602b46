import PhotonFerry.Proofs.Detector.Lookup
import PhotonFerry.Proofs.Run.Beginning
/-!
# Controllers that can be reached

A controller starts with a catalog and no run, and changes only by its own
operations. Whatever their order and however they fail, it keeps its catalog, its
channels lead into that catalog, and the batch of photoelectrons stands for a list.
-/

namespace PhotonFerry

namespace Controller

variable {β ρ : Type}

/-- The controllers that come about with a catalog. -/
inductive Reachable [Backend β] [Response ρ] (catalog : Catalog) : Controller β ρ → Prop where
  | fresh (response : ρ) : Reachable catalog { catalog, response }
  | beginRun {controller : Controller β ρ} (backend : β) (earlier : Reachable catalog controller) :
      Reachable catalog (beginRun backend controller).state
  | beginRunBy {controller : Controller β ρ} (opening : Action Unit (Except RunError β))
      (earlier : Reachable catalog controller) :
      Reachable catalog (beginRunBy opening controller).state
  /-- The photons that are collected are changed in any way. -/
  | collect {controller : Controller β ρ} (photons : PhotonBatch)
      (earlier : Reachable catalog controller) :
      Reachable catalog { controller with photons }
  | processEvent {controller : Controller β ρ} (event : UInt32)
      (earlier : Reachable catalog controller) :
      Reachable catalog (processEvent event controller).state
  | endRun {controller : Controller β ρ} (earlier : Reachable catalog controller) :
      Reachable catalog (endRun controller).state

/-- What every operation keeps: the catalog is the given one, channels give ids of
its photomultipliers, and the photoelectrons have columns of one length. -/
structure Sound (given : Catalog) (controller : Controller β ρ) : Prop where
  catalog : controller.catalog = given
  channels : controller.channels.Within given.size
  aligned : controller.photoelectrons.Aligned

variable {catalog : Catalog} {controller : Controller β ρ}

theorem sound_fresh (response : ρ) :
    Sound catalog ({ catalog, response } : Controller β ρ) where
  catalog := rfl
  channels := ChannelMap.within_empty catalog.size
  aligned := PhotoelectronBatch.aligned_empty

theorem Sound.clearEvent (sound : Sound catalog controller) :
    Sound catalog (clearEvent controller).state :=
  { sound with aligned := PhotoelectronBatch.aligned_clear _ }

section Runs

variable [Backend β]

theorem Sound.endRun (sound : Sound catalog controller) :
    Sound catalog (endRun controller).state := by
  unfold Controller.endRun
  split
  · exact sound
  · exact { sound with }

theorem Sound.install (sound : Sound catalog controller) (backend : β) :
    Sound catalog (install backend controller).state := by
  cases found : locate controller.catalog backend with
  | error reason =>
    rw [(install_unlocated found).2]
    exact sound
  | ok channels =>
    obtain ⟨points, -, built, -⟩ := locate_eq_ok_iff.mp found
    have within := ChannelMap.within_build built
    rw [(install_located found).2]
    refine ⟨sound.catalog, ?_, PhotoelectronBatch.aligned_clear _⟩
    simpa [started, Catalog.positions, Catalog.size, sound.catalog] using within

theorem Sound.beginRun (sound : Sound catalog controller) (backend : β) :
    Sound catalog (beginRun backend controller).state := by
  rw [(beginRun_after_endRun backend controller).2]
  exact sound.endRun.install backend

theorem Sound.beginRunBy (sound : Sound catalog controller)
    (opening : Action Unit (Except RunError β)) :
    Sound catalog (beginRunBy opening controller).state := by
  cases opened : (opening ()).value with
  | error reason => simpa [Controller.beginRunBy, opened] using sound
  | ok backend => simpa [Controller.beginRunBy, opened] using sound.beginRun backend

theorem Sound.propagate (sound : Sound catalog controller) (backend : β) (event : UInt32) :
    Sound catalog (propagate backend event controller).state :=
  { sound with aligned := Backend.aligned_propagate _ backend sound.aligned }

variable [Response ρ]

omit [Backend β] in
theorem Sound.recordHits (sound : Sound catalog controller) (event : UInt32) (outcome : Outcome) :
    Sound catalog (recordHits event outcome controller).state := by
  cases made : harvest controller.channels controller.catalog event controller.response
      controller.photoelectrons.toList with
  | error reason =>
    rw [recordHits_failed made]
    exact sound
  | ok harvested =>
    rw [(recordHits_harvested controller made).2]
    exact { sound with }

theorem Sound.processEvent (sound : Sound catalog controller) (event : UInt32) :
    Sound catalog (processEvent event controller).state := by
  cases running : controller.backend with
  | none =>
    rw [processEvent_idle running]
    exact sound
  | some backend =>
    let asked := Controller.propagate backend event controller
    have answered : Sound catalog asked.state := sound.propagate backend event
    cases value : asked.value with
    | error reason =>
      rw [(processEvent_failed running value).2]
      exact answered.clearEvent
    | ok outcome =>
      by_cases own : asked.state.photoelectrons.event = event
      · rw [(processEvent_own running value own).2]
        exact (answered.recordHits event outcome).clearEvent
      · rw [(processEvent_foreign running value own).2]
        exact answered.clearEvent

/-- Every controller that can be reached is sound. -/
theorem Reachable.sound (reachable : Reachable catalog controller) : Sound catalog controller := by
  induction reachable with
  | fresh response => exact sound_fresh response
  | beginRun backend earlier step => exact step.beginRun backend
  | beginRunBy opening earlier step => exact step.beginRunBy opening
  | collect photons earlier step => exact { step with }
  | processEvent event earlier step => exact step.processEvent event
  | endRun earlier step => exact step.endRun

end Runs

end Controller

end PhotonFerry
