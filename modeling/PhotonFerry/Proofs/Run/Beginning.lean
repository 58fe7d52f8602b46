import PhotonFerry.Run.Controller
/-!
# What it takes to begin a run

A run begins if the backend knows the positions of its photomultipliers, they are as many
as those of the catalog, and one of them at least has a counterpart there. Whether it does
is decided before anything of the controller changes, but for a run in progress, which
ends in any case.
-/

namespace PhotonFerry

namespace Controller

variable {β ρ : Type} [Backend β]

/-- The channels of a backend by its positions, or why no run can begin with it. -/
def locate (catalog : Catalog) (backend : β) : Except RunError ChannelMap :=
  match (Backend.positions backend).value with
  | .error reason => .error reason
  | .ok points =>
    match ChannelMap.build points catalog.positions ChannelMap.runTolerance with
    | .error reason => .error (.geometry reason)
    | .ok channels => if channels.matched = 0 then .error (.noPmtMatched points.length)
      else .ok channels

/-- The controller at the first event of a run. -/
def started (controller : Controller β ρ) (channels : ChannelMap) (backend : β) :
    Controller β ρ :=
  { controller with
    channels
    photons := controller.photons.clear
    photoelectrons := controller.photoelectrons.clear
    metrics := {}
    backend := some backend }

variable {catalog : Catalog} {backend : β} {channels : ChannelMap} {controller : Controller β ρ}

/-- Some channel has a photomultiplier, and there is a photomultiplier for each channel. -/
theorem locate_eq_ok_iff : locate catalog backend = .ok channels ↔
    ∃ points, (Backend.positions backend).value = .ok points ∧
      ChannelMap.build points catalog.positions ChannelMap.runTolerance = .ok channels ∧
      channels.matched ≠ 0 := by
  unfold locate
  cases (Backend.positions backend).value with
  | error reason => simp
  | ok points =>
    cases built : ChannelMap.build points catalog.positions ChannelMap.runTolerance with
    | error reason => simp [built]
    | ok found =>
      by_cases none : found.matched = 0
      · simp only [built, none, if_true, reduceCtorEq, false_iff]
        rintro ⟨_, same, again, some⟩
        obtain rfl := Except.ok.inj same
        obtain rfl := Except.ok.inj (built.symm.trans again)
        exact some none
      · simp only [built, none, if_false, Except.ok.injEq]
        refine ⟨fun same => ⟨points, rfl, same ▸ built, same ▸ none⟩, ?_⟩
        rintro ⟨_, rfl, again, -⟩
        exact Except.ok.inj (built.symm.trans again)

/-- A backend that is not located is not installed, and nothing changes. -/
theorem install_unlocated {reason : RunError}
    (unlocated : locate controller.catalog backend = .error reason) :
    (install backend controller).value = .error reason ∧
      (install backend controller).state = controller := by
  cases asked : (Backend.positions backend).value with
  | error why =>
    simp only [locate, asked, Except.error.injEq] at unlocated
    simp [install, asked, unlocated]
  | ok points =>
    cases built : ChannelMap.build points controller.catalog.positions ChannelMap.runTolerance with
    | error why =>
      simp only [locate, asked, built, Except.error.injEq] at unlocated
      simp [install, asked, built, ChannelMap.reconcile_value, unlocated]
    | ok found =>
      by_cases none : found.matched = 0
      · simp only [locate, asked, built, none, if_true, Except.error.injEq] at unlocated
        simp [install, asked, built, ChannelMap.reconcile_value, none, unlocated]
      · simp [locate, asked, built, none] at unlocated

/-- A run begins with a backend that is located. -/
theorem install_located (located : locate controller.catalog backend = .ok channels) :
    (install backend controller).value = .ok () ∧
      (install backend controller).state =
        controller.started channels (Backend.positions backend).state := by
  obtain ⟨points, asked, built, matched⟩ := locate_eq_ok_iff.mp located
  simp [install, asked, built, ChannelMap.reconcile_value, matched, started]

/-- Ending a run leaves no run, and counts the reconnections of the run that it ends. -/
theorem exists_endRun_state (controller : Controller β ρ) : ∃ reconnects,
    (endRun controller).state =
      { controller with backend := none, metrics := { controller.metrics with reconnects } } := by
  cases running : controller.backend with
  | none =>
    refine ⟨controller.metrics.reconnects, ?_⟩
    rw [endRun_idle running, ← running]
  | some backend => exact ⟨_, (endRun_running running).2⟩

theorem endRun_backend (controller : Controller β ρ) :
    (endRun controller).state.backend = none := by
  obtain ⟨reconnects, state⟩ := exists_endRun_state controller
  rw [state]

/-- A run in progress is ended before a backend is installed. -/
theorem beginRun_after_endRun (backend : β) (controller : Controller β ρ) :
    (beginRun backend controller).value = (install backend (endRun controller).state).value ∧
      (beginRun backend controller).state = (install backend (endRun controller).state).state := by
  by_cases running : controller.isRunning
  · exact beginRun_running running backend
  · have idle : controller.backend = none := by simpa [isRunning] using running
    rw [beginRun_idle running, endRun_idle idle]
    exact ⟨rfl, rfl⟩

/-- If a run cannot begin, there is none. -/
theorem beginRun_unlocated {reason : RunError}
    (unlocated : locate controller.catalog backend = .error reason) :
    (beginRun backend controller).value = .error reason ∧
      (beginRun backend controller).state = (endRun controller).state := by
  obtain ⟨value, state⟩ := beginRun_after_endRun backend controller
  obtain ⟨reconnects, left⟩ := exists_endRun_state controller
  rw [value, state]
  refine install_unlocated ?_
  rw [left]
  exact unlocated

/-- If it can, it takes the place of the run before it. -/
theorem beginRun_located (located : locate controller.catalog backend = .ok channels) :
    (beginRun backend controller).value = .ok () ∧
      (beginRun backend controller).state =
        (endRun controller).state.started channels (Backend.positions backend).state := by
  obtain ⟨value, state⟩ := beginRun_after_endRun backend controller
  obtain ⟨reconnects, left⟩ := exists_endRun_state controller
  rw [value, state]
  refine install_located ?_
  rw [left]
  exact located

end Controller

end PhotonFerry
