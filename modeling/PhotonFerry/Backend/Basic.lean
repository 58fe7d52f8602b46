import PhotonFerry.Recording.Reader
import PhotonFerry.Run.Error
/-!
# Backends

A backend turns the photons of an event into photoelectrons. A run works with
any type that can do this: a live session, a recording that is being read, or a
backend prepared in advance.
-/

namespace PhotonFerry

/-- Types that can serve a run. -/
class Backend (β : Type) where
  /-- The name in journals. -/
  name : β → String
  /-- The positions of the photomultipliers by channel. -/
  positions : Action β (Except RunError (List (Point Float)))
  /-- The photoelectrons for the photons of one event. The batch is what a
  receiver holds before and after. -/
  propagate : PhotonBatch → PhotoelectronBatch →
    Action β (Except RunError Outcome × PhotoelectronBatch)
  /-- A receiver is changed whole photoelectrons at a time, so its columns stay of one length. -/
  aligned_propagate : ∀ (photons : PhotonBatch) {out : PhotoelectronBatch} (backend : β),
    out.Aligned → (propagate photons out backend).value.2.Aligned
  /-- Take note that the run is over. -/
  endRun : Action β Unit
  /-- The number of connections opened after the first. -/
  reconnects : β → Nat

/-- A client and its session. -/
structure LiveBackend (σ : Type) where
  client : Client σ
  session : Session σ

namespace LiveBackend

variable {σ α : Type}

/-- A client that has not yet been in touch with its backend. -/
def ofClient (client : Client σ) (world : σ) : LiveBackend σ :=
  ⟨client, { world }⟩

/-- Work on the session of a live backend. -/
def run (action : Client σ → Action (Session σ) α) : Action (LiveBackend σ) α := fun backend =>
  Action.within session (fun session whole => { whole with session })
    (action backend.client) backend

/-- The photoelectrons of an event; no failure of an event is an error. -/
def propagate (photons : PhotonBatch) (out : PhotoelectronBatch) :
    Action (LiveBackend σ) (Except RunError Outcome × PhotoelectronBatch) := do
  let (outcome, batch) ← run fun client => client.propagate photons out
  return (.ok outcome, batch)

theorem aligned_propagate (photons : PhotonBatch) {out : PhotoelectronBatch}
    (backend : LiveBackend σ) (aligned : out.Aligned) :
    (propagate photons out backend).value.2.Aligned :=
  backend.client.aligned_propagate photons backend.session aligned

/-- The positions of the backend's photomultipliers, to compute with. -/
def positions : Action (LiveBackend σ) (Except RunError (List (Point Float))) := do
  match ← run Client.positions with
  | .ok points => return .ok (points.map (Point.map Double.toFloat))
  | .error reason => return .error (.start reason)

end LiveBackend

instance {σ : Type} : Backend (LiveBackend σ) where
  name _ := "live"
  positions := LiveBackend.positions
  propagate := LiveBackend.propagate
  aligned_propagate := LiveBackend.aligned_propagate
  endRun := LiveBackend.run Client.stop
  reconnects backend := backend.session.reconnects

namespace RecordingReader

/-- The recorded positions, for a run. -/
def runPositions : Action RecordingReader (Except RunError (List (Point Float))) := do
  match ← loadPositions with
  | .ok points => return .ok points
  | .error reason => return .error (.recording reason)

/-- The next event if it is that of the photons, for a run. -/
def propagate (photons : PhotonBatch) (out : PhotoelectronBatch) :
    Action RecordingReader (Except RunError Outcome × PhotoelectronBatch) := do
  match ← readRequested photons.event out with
  | (.ok _, batch) => return (.ok .complete, batch)
  | (.error reason, batch) => return (.error (.recording reason), batch)

theorem aligned_propagate (photons : PhotonBatch) {out : PhotoelectronBatch}
    (reader : RecordingReader) (aligned : out.Aligned) :
    (propagate photons out reader).value.2.Aligned := by
  have read : (readRequested photons.event out reader).value.2.Aligned :=
    aligned_readRequested reader aligned
  simp only [propagate, Action.bind_value]
  match found : (readRequested photons.event out reader).value with
  | (.ok event, batch) => simpa [found] using read
  | (.error reason, batch) => simpa [found] using read

end RecordingReader

instance : Backend RecordingReader where
  name _ := "replay"
  positions := RecordingReader.runPositions
  propagate := RecordingReader.propagate
  aligned_propagate := RecordingReader.aligned_propagate
  endRun := RecordingReader.finish
  reconnects _ := 0

/-- Work on the left side of a choice between backends. -/
def onLeft {α β γ : Type} (action : Action α γ) (left : α) : Traced (α ⊕ β) γ :=
  let result := action left
  ⟨result.value, .inl result.state, result.journal⟩

/-- Work on the right side of a choice between backends. -/
def onRight {α β γ : Type} (action : Action β γ) (right : β) : Traced (α ⊕ β) γ :=
  let result := action right
  ⟨result.value, .inr result.state, result.journal⟩

instance {α β : Type} [Backend α] [Backend β] : Backend (α ⊕ β) where
  name := Sum.elim Backend.name Backend.name
  positions := Sum.elim (onLeft Backend.positions) (onRight Backend.positions)
  propagate photons out :=
    Sum.elim (onLeft (Backend.propagate photons out)) (onRight (Backend.propagate photons out))
  aligned_propagate photons out backend aligned := by
    cases backend with
    | inl left => exact Backend.aligned_propagate photons left aligned
    | inr right => exact Backend.aligned_propagate photons right aligned
  endRun := Sum.elim (onLeft Backend.endRun) (onRight Backend.endRun)
  reconnects := Sum.elim Backend.reconnects Backend.reconnects

end PhotonFerry
