import PhotonFerry.Proofs.Run.Beginning
/-!
# Attending to backends

An attended backend does what the backend does, and each time that it is called it
leaves a mark with its number in the journal. A controller cannot tell the difference,
and nothing else that it journals is taken for a mark. So the journals of a controller
over attended backends tell which backend was called for what, and in which order.
-/

namespace PhotonFerry

/-- Something that happens to a backend with a number. -/
inductive Happening where
  /-- It was asked for its positions. -/
  | asked (number : Nat)
  /-- A run began with it. -/
  | began (number : Nat)
  /-- A run was to begin with it and did not. -/
  | refused (number : Nat)
  /-- It was given the photons of an event. -/
  | propagated (number : Nat)
  /-- It was told that its run is over. -/
  | ended (number : Nat)
  deriving DecidableEq, Repr

namespace Happening

/-- The record that marks a call: its urgency tells the kind of call, and its text has one
stroke for each number below. The topic is one that controllers do not write about. -/
def mark (severity : Severity) (number : Nat) : LogRecord :=
  ⟨severity, .connection, String.ofList (List.replicate number '|')⟩

/-- The call that a record marks. -/
def read? (entry : LogRecord) : Option Happening :=
  if entry.topic = .connection then
    match entry.severity with
    | .info => some (.asked entry.text.length)
    | .debug => some (.propagated entry.text.length)
    | .warn => some (.ended entry.text.length)
    | .error => none
  else none

/-- The calls that a journal marks, in their order. -/
def listed (journal : Journal) : List Happening :=
  journal.filterMap read?

/-- No record of the journal is a mark. -/
def Unmarked (journal : Journal) : Prop :=
  ∀ entry ∈ journal, entry.topic ≠ .connection

section Journals

variable {entry : LogRecord} {journal journal' : Journal}

@[simp] theorem unmarked_nil : Unmarked [] :=
  fun _ member => nomatch member

@[simp] theorem unmarked_cons :
    Unmarked (entry :: journal) ↔ entry.topic ≠ .connection ∧ Unmarked journal :=
  List.forall_mem_cons

@[simp] theorem unmarked_append :
    Unmarked (journal ++ journal') ↔ Unmarked journal ∧ Unmarked journal' :=
  List.forall_mem_append

@[simp] theorem listed_append : listed (journal ++ journal') = listed journal ++ listed journal' :=
  List.filterMap_append

theorem Unmarked.listed (unmarked : Unmarked journal) : listed journal = [] :=
  List.filterMap_eq_nil_iff.mpr fun entry member => if_neg (unmarked entry member)

theorem listed_asked (number : Nat) : listed [mark .info number] = [.asked number] := by
  simp [Happening.listed, read?, mark]

theorem listed_propagated (number : Nat) : listed [mark .debug number] = [.propagated number] := by
  simp [Happening.listed, read?, mark]

theorem listed_ended (number : Nat) : listed [mark .warn number] = [.ended number] := by
  simp [Happening.listed, read?, mark]

end Journals

end Happening

open Happening (mark listed Unmarked)

/-- A backend with a number that is attended to. -/
structure Attended (β : Type) where
  number : Nat
  backend : β

namespace Attended

variable {α β : Type}

/-- Call the backend, and leave nothing but a mark of this kind. -/
def marking (severity : Severity) (call : Action β α) : Action (Attended β) α := fun attended =>
  let result := call attended.backend
  ⟨result.value, { attended with backend := result.state }, [mark severity attended.number]⟩

instance [Backend β] : Backend (Attended β) where
  name attended := Backend.name attended.backend
  positions := marking .info Backend.positions
  propagate photons out := marking .debug (Backend.propagate photons out)
  aligned_propagate photons _ attended aligned :=
    Backend.aligned_propagate photons attended.backend aligned
  endRun := marking .warn Backend.endRun
  reconnects attended := Backend.reconnects attended.backend

end Attended

namespace Controller

variable {α β ρ : Type}

/-- The controller with nobody attending to its backend. -/
def unattended (controller : Controller (Attended β) ρ) : Controller β ρ :=
  { controller with backend := controller.backend.map Attended.backend }

/-- The number of the backend of the run in progress. -/
def inCharge (controller : Controller (Attended β) ρ) : Option Nat :=
  controller.backend.map Attended.number

/-- An action over an attended backend gives and leaves what another gives and leaves over
the backend itself. -/
structure Unnoticed (attended : Traced (Controller (Attended β) ρ) α)
    (plain : Traced (Controller β ρ) α) : Prop where
  value : attended.value = plain.value
  state : attended.state.unattended = plain.state

section Runs

variable [Backend β] {controller : Controller (Attended β) ρ}

/-- What the end of a run does: it calls the backend in charge, and leaves none in charge. -/
theorem endRun_attended (controller : Controller (Attended β) ρ) :
    listed (endRun controller).journal = (controller.inCharge.map Happening.ended).toList ∧
      (endRun controller).state.inCharge = none ∧
      Unnoticed (endRun controller) (endRun controller.unattended) := by
  cases running : controller.backend with
  | none =>
    rw [endRun_idle running, endRun_idle (by simp [unattended, running])]
    simp only [inCharge, running]
    exact ⟨rfl, rfl, rfl, rfl⟩
  | some attended =>
    have plain : controller.unattended.backend = some attended.backend := by
      simp [unattended, running]
    obtain ⟨value, state⟩ := endRun_running running
    obtain ⟨value', state'⟩ := endRun_running plain
    refine ⟨?_, by rw [state]; rfl, value.trans value'.symm, by rw [state, state']; rfl⟩
    simp only [endRun, running, inCharge, Happening.listed_append, Option.map_some]
    exact congrArg (· ++ []) (Happening.listed_ended attended.number)

/-- The journal of a map that is reconciled marks no call. -/
theorem unmarked_reconcile {σ : Type} (backend detector : List (Point Float)) (tolerance : Float)
    (state : σ) : Unmarked (ChannelMap.reconcile backend detector tolerance state).journal := by
  cases built : ChannelMap.build backend detector tolerance with
  | error reason => simp [ChannelMap.reconcile, built]
  | ok map =>
    have lonely : Unmarked (ChannelMap.lonelyRecords backend map) := by
      intro entry member
      obtain ⟨⟨⟨point, found⟩, channel⟩, -, made⟩ := List.mem_filterMap.mp member
      cases found with
      | none =>
        simp only [Option.isSome_none, Bool.false_eq_true, if_false, Option.some.injEq] at made
        simp [← made]
      | some id => simp at made
    simp [ChannelMap.reconcile, built, Action.debug, Action.info, lonely]

/-- Installing a backend marks no call but those that the backend marks as it is located. -/
theorem exists_install_journal {γ : Type} [Backend γ] (backend : γ) (controller : Controller γ ρ) :
    ∃ entries, (install backend controller).journal =
      (Backend.positions backend).journal ++ entries ∧ Unmarked entries := by
  unfold install
  dsimp only
  split
  · exact ⟨[], (List.append_nil _).symm, Happening.unmarked_nil⟩
  · have reconciled {points detector : List (Point Float)} :=
      unmarked_reconcile points detector ChannelMap.runTolerance ()
    split
    · exact ⟨_, rfl, reconciled⟩
    · split
      · exact ⟨_, rfl, reconciled⟩
      · exact ⟨_, List.append_assoc _ _ _, Happening.unmarked_append.mpr ⟨reconciled, by simp⟩⟩

/-- What it does to install a backend: it asks the backend for its positions, and leaves it in
charge if a run begins. -/
theorem install_attended (attended : Attended β) (controller : Controller (Attended β) ρ) :
    listed (install attended controller).journal = [.asked attended.number] ∧
      (install attended controller).state.inCharge = (match (install attended controller).value with
        | .ok () => some attended.number
        | .error _ => controller.inCharge) ∧
      Unnoticed (install attended controller)
        (install attended.backend controller.unattended) := by
  constructor
  · obtain ⟨entries, whole, unmarked⟩ := exists_install_journal attended controller
    rw [whole, Happening.listed_append, unmarked.listed, List.append_nil]
    exact Happening.listed_asked attended.number
  · -- an attended backend is where the backend itself is
    have same : locate controller.unattended.catalog attended.backend =
        locate controller.catalog attended := rfl
    cases found : locate controller.catalog attended with
    | error reason =>
      obtain ⟨value, state⟩ := install_unlocated found
      obtain ⟨value', state'⟩ := install_unlocated (same.trans found)
      rw [value, state]
      exact ⟨rfl, value.trans value'.symm, by rw [state, state']⟩
    | ok channels =>
      obtain ⟨value, state⟩ := install_located found
      obtain ⟨value', state'⟩ := install_located (same.trans found)
      rw [value, state]
      exact ⟨rfl, value.trans value'.symm, by rw [state, state']; rfl⟩

/-- What it does to begin a run: it ends the run in progress and then asks the new backend for
its positions, which is the one in charge if its run begins; else none is. -/
theorem beginRun_attended (attended : Attended β) (controller : Controller (Attended β) ρ) :
    listed (beginRun attended controller).journal =
        (controller.inCharge.map Happening.ended).toList ++ [.asked attended.number] ∧
      (beginRun attended controller).state.inCharge =
        (match (beginRun attended controller).value with
          | .ok () => some attended.number
          | .error _ => none) ∧
      Unnoticed (beginRun attended controller)
        (beginRun attended.backend controller.unattended) := by
  obtain ⟨told, idle, ended⟩ := endRun_attended controller
  obtain ⟨asked, charge, installed⟩ := install_attended attended (endRun controller).state
  obtain ⟨value, state⟩ := beginRun_after_endRun attended controller
  obtain ⟨value', state'⟩ := beginRun_after_endRun attended.backend controller.unattended
  rw [ended.state] at installed
  refine ⟨?_, ?_, value.trans (installed.value.trans value'.symm), ?_⟩
  · have journal : listed (beginRun attended controller).journal =
        listed (endRun controller).journal ++
          listed (install attended (endRun controller).state).journal := by
      by_cases running : controller.isRunning
      · have warned : listed [⟨.warn, .run, "Run already in progress, ending it first"⟩] = [] :=
          Unmarked.listed (by simp)
        simp only [beginRun, Action.get_bind, running, if_true, Action.bind_journal, Action.warn,
          Action.note_apply, Happening.listed_append, warned, List.nil_append]
      · have idle : controller.backend = none := by simpa [isRunning] using running
        rw [beginRun_idle running, endRun_idle idle]
        rfl
    rw [journal, told, asked]
  · rw [state, value, charge, idle]
  · rw [state, installed.state, state']

section Events

variable [Response ρ]

omit [Backend β] in
/-- The journal of a harvest marks no call. -/
theorem unmarked_harvest {channels : ChannelMap} {catalog : Catalog} {event : UInt32}
    {response : ρ} {samples : List Photoelectron} {harvested : Harvest ρ}
    (made : harvest channels catalog event response samples = .ok harvested) :
    Unmarked harvested.journal := by
  induction samples generalizing response harvested with
  | nil =>
    obtain rfl := Except.ok.inj made
    exact Happening.unmarked_nil
  | cons sample rest step =>
    simp only [harvest] at made
    split at made
    · split at made
      · simp at made
      · rename_i later behind
        obtain rfl := Except.ok.inj made
        exact Happening.unmarked_cons.mpr ⟨by simp, step behind⟩
    · split at made
      · simp at made
      · split at made
        · simp at made
        · rename_i later behind
          obtain rfl := Except.ok.inj made
          have unmarked : Unmarked later.journal := step behind
          exact unmarked

omit [Backend β] in
/-- Recording the hits of an event calls no backend, and does not depend on it. -/
theorem recordHits_attended (event : UInt32) (outcome : Outcome)
    (controller : Controller (Attended β) ρ) :
    listed (recordHits event outcome controller).journal = [] ∧
      (recordHits event outcome controller).state.backend = controller.backend ∧
      Unnoticed (recordHits event outcome controller)
        (recordHits event outcome controller.unattended) := by
  cases made : harvest controller.channels controller.catalog event controller.response
      controller.photoelectrons.toList with
  | error reason =>
    have made' : harvest controller.unattended.channels controller.unattended.catalog event
        controller.unattended.response controller.unattended.photoelectrons.toList =
          .error reason := made
    rw [recordHits_failed made, recordHits_failed made']
    exact ⟨rfl, rfl, rfl, rfl⟩
  | ok harvested =>
    have made' : harvest controller.unattended.channels controller.unattended.catalog event
        controller.unattended.response controller.unattended.photoelectrons.toList =
          .ok harvested := made
    obtain ⟨value, state⟩ : (recordHits event outcome controller).value = _ ∧
        (recordHits event outcome controller).state = _ := recordHits_harvested controller made
    obtain ⟨value', state'⟩ : (recordHits event outcome controller.unattended).value = _ ∧
        (recordHits event outcome controller.unattended).state = _ :=
      recordHits_harvested controller.unattended made'
    refine ⟨?_, by rw [state], value.trans value'.symm, by rw [state, state']; rfl⟩
    refine Unmarked.listed ?_
    have unmarked := unmarked_harvest made
    by_cases lost : 0 < harvested.dropped
    · simp [recordHits, made, lost, Action.warn, unmarked]
    · simp [recordHits, made, lost, unmarked]

/-- Processing an event marks no call but those that the backend marks as it is given the
photons. -/
theorem exists_processEvent_journal {attended : Attended β}
    {controller : Controller (Attended β) ρ} (running : controller.backend = some attended)
    (event : UInt32) :
    ∃ entries, (processEvent event controller).journal =
      (propagate attended event controller).journal ++ entries ∧ listed entries = [] := by
  cases answer : (propagate attended event controller).value with
  | error reason =>
    refine ⟨[], ?_, rfl⟩
    simp [processEvent, running, answer, clearEvent]
  | ok outcome =>
    by_cases own : (propagate attended event controller).state.photoelectrons.event = event
    · refine ⟨_, ?_, (recordHits_attended event outcome
        (propagate attended event controller).state).1⟩
      simp [processEvent, running, answer, own, clearEvent]
    · refine ⟨[], ?_, rfl⟩
      simp [processEvent, running, answer, own, clearEvent]

/-- What it does to process an event: the backend in charge, if there is one, is given the
photons, and stays in charge. -/
theorem processEvent_attended (event : UInt32) (controller : Controller (Attended β) ρ) :
    listed (processEvent event controller).journal =
        (controller.inCharge.map Happening.propagated).toList ∧
      (processEvent event controller).state.inCharge = controller.inCharge ∧
      Unnoticed (processEvent event controller)
        (processEvent event controller.unattended) := by
  cases running : controller.backend with
  | none =>
    have plain : controller.unattended.backend = none := by simp [unattended, running]
    rw [processEvent_idle running, processEvent_idle plain, inCharge, running]
    exact ⟨rfl, rfl, rfl, rfl⟩
  | some attended =>
    have plain : controller.unattended.backend = some attended.backend := by
      simp [unattended, running]
    have owned : controller.inCharge = some attended.number := by simp [inCharge, running]
    rw [owned]
    constructor
    · obtain ⟨entries, whole, unmarked⟩ := exists_processEvent_journal running event
      rw [whole, Happening.listed_append, unmarked, List.append_nil]
      exact Happening.listed_propagated attended.number
    let asked := propagate attended event controller
    let asked' := propagate attended.backend event controller.unattended
    have charge : asked.state.inCharge = some attended.number := rfl
    have left : asked.state.unattended = asked'.state := rfl
    cases answer : asked.value with
    | error reason =>
      obtain ⟨value, state⟩ := processEvent_failed running answer
      obtain ⟨value', state'⟩ := processEvent_failed plain answer
      refine ⟨?_, value.trans value'.symm, ?_⟩
      · rw [state]
        exact charge
      · rw [state, state']
        rfl
    | ok outcome =>
      by_cases own : asked.state.photoelectrons.event = event
      · obtain ⟨value, state⟩ := processEvent_own running answer own
        obtain ⟨value', state'⟩ := processEvent_own plain answer own
        obtain ⟨-, kept, unnoticed⟩ := recordHits_attended event outcome asked.state
        rw [left] at unnoticed
        refine ⟨?_, value.trans (unnoticed.value.trans value'.symm), ?_⟩
        · rw [state]
          exact congrArg (Option.map Attended.number) kept
        · rw [state, state', ← unnoticed.state]
          rfl
      · obtain ⟨value, state⟩ := processEvent_foreign running answer own
        obtain ⟨value', state'⟩ := processEvent_foreign plain answer own
        refine ⟨?_, value.trans value'.symm, ?_⟩
        · rw [state]
          exact charge
        · rw [state, state']
          rfl

end Events

end Runs

end Controller

end PhotonFerry
