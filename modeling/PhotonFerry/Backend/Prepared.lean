import PhotonFerry.Backend.Basic
/-!
# Backends prepared in advance

A prepared backend answers from a list. It serves to rehearse a run.
-/

namespace PhotonFerry

/-- One prepared answer. -/
structure PreparedReply where
  outcome : Outcome := .complete
  /-- The event that the answer names, in place of the one that is asked for. -/
  event : Option UInt32 := none
  /-- Whether the samples are added to those that the receiver holds. -/
  keepsHeld : Bool := false
  samples : List Photoelectron := []
  /-- Why the answer fails, after the receiver has its samples. -/
  error : Option String := none

/-- A backend that answers from a list, and with no samples once it is used up. -/
structure PreparedBackend where
  positions : Option (List (Point Float))
  replies : List PreparedReply

namespace PreparedBackend

/-- The prepared positions. -/
def runPositions : Action PreparedBackend (Except RunError (List (Point Float))) := do
  let backend ← Action.get
  match backend.positions with
  | some points => return .ok points
  | none => return .error (.configuration "no positions")

/-- The next prepared answer. -/
def propagate (photons : PhotonBatch) (out : PhotoelectronBatch) :
    Action PreparedBackend (Except RunError Outcome × PhotoelectronBatch) := do
  let backend ← Action.get
  let reply := backend.replies.headD {}
  Action.set { backend with replies := backend.replies.tail }
  let held := if reply.keepsHeld then out else out.clear
  let batch := reply.samples.foldl PhotoelectronBatch.push
    (held.setEvent (reply.event.getD photons.event))
  match reply.error with
  | some reason => return (.error (.configuration reason), batch)
  | none => return (.ok reply.outcome, batch)

theorem aligned_propagate (photons : PhotonBatch) {out : PhotoelectronBatch}
    (backend : PreparedBackend) (aligned : out.Aligned) :
    (propagate photons out backend).value.2.Aligned := by
  have filled : ∀ (samples : List Photoelectron) (held : PhotoelectronBatch), held.Aligned →
      (samples.foldl PhotoelectronBatch.push held).Aligned := by
    intro samples
    induction samples with
    | nil => exact fun _ held => held
    | cons sample samples step =>
      exact fun _ held => step _ (PhotoelectronBatch.aligned_push held sample)
  simp only [propagate, Action.get_bind, Action.bind_value]
  generalize whole : List.foldl PhotoelectronBatch.push _ _ = batch
  have received : batch.Aligned := by
    subst whole
    apply filled
    split
    · exact aligned
    · exact PhotoelectronBatch.aligned_clear out
  cases (backend.replies.headD {}).error <;> exact received

end PreparedBackend

instance : Backend PreparedBackend where
  name _ := "fixed"
  positions := PreparedBackend.runPositions
  propagate := PreparedBackend.propagate
  aligned_propagate := PreparedBackend.aligned_propagate
  endRun := pure ()
  reconnects _ := 0

end PhotonFerry
