import PhotonFerry.Client.Exchange
import PhotonFerry.Wire.Request
import PhotonFerry.Wire.Reply
/-!
# The life of a session

`start` shakes hands, announces the run and asks for the detector; `propagate`
ships one event's photons and collects the photoelectrons; `stop` announces the
end of the run and closes. No failure of a single event ends a session: such an
event is reported as failed and has no photoelectrons.
-/

namespace PhotonFerry

/-- How the propagation of one event ended. -/
inductive Outcome where
  /-- The photoelectrons came, possibly none. -/
  | complete
  /-- The backend keeps the photoelectrons; the event has none here. -/
  | deferred
  /-- No reply was accepted; the event has no photoelectrons. -/
  | failed
  deriving DecidableEq, Repr

/-- The name of an outcome in reports. -/
def Outcome.name : Outcome → String
  | complete => "complete"
  | deferred => "deferred"
  | failed => "failed"

/-- Why a session could not be started. -/
inductive StartError where
  | handshake (reason : PeerError)
  | detectorInfo (reason : PeerError)
  deriving DecidableEq, Repr

/-- The report of an error. -/
def StartError.message : StartError → String
  | handshake reason => s!"Backend handshake failed: {reason.message}"
  | detectorInfo reason => s!"Detector info request failed: {reason.message}"

namespace Client

variable {σ : Type}

/-- Only an acknowledgement will do; anything else answers something else. -/
def judgeAck (reply : Wire.Message) : Verdict Unit :=
  match Wire.expectAck reply with
  | .ok () => .accept ()
  | .error reason => .reject reason

/-- A message with the right tag must also be sound; one with another tag, or
with none that is known, answers something else. -/
def judgeDetectorInfo (reply : Wire.Message) : Verdict DetectorInfo :=
  match Wire.decodeDetectorInfo reply with
  | .ok info => .accept info
  | .error (.unknownTag text) => .reject (.unknownTag text)
  | .error reason => if reason.isStale then .reject reason else .abort reason

/-- Any message that is not a sound reply for this event answers something else.
The photoelectrons of a sound one go into the receiving batch. -/
def judgeSimReply (event : UInt32) : Judge PhotoelectronBatch Wire.SimReply := fun reply out =>
  match Wire.decodeSimReply reply event out with
  | (.ok accepted, out) => (.accept accepted, out)
  | (.error reason, out) => (.reject reason, out)

/-- Ask the backend for its detector, and be ready once it has answered. -/
def requestDetector (client : Client σ) :
    Action (Session σ) (Except StartError DetectorInfo) := do
  Session.enter .awaitingDetectorInfo
  match ← client.ask "DETECTOR_INFO" (Wire.encodeRequest .detectorInfo) judgeDetectorInfo with
  | .error reason =>
    Session.enter .disconnected
    return .error (.detectorInfo reason)
  | .ok info =>
    Action.info .client s!"Backend reports {info.size} PMTs"
    Action.modify fun session => { session with phase := .ready, detector := some info }
    return .ok info

/-- Shake hands with the backend, announce the run and ask for the detector. A
backend that does not acknowledge the run is used all the same. -/
def start (client : Client σ) : Action (Session σ) (Except StartError DetectorInfo) := do
  Session.enter .handshaking
  match ← client.ask "PING" (Wire.encodeRequest .ping) judgeAck with
  | .error reason =>
    Session.enter .disconnected
    return .error (.handshake reason)
  | .ok () =>
    Action.info .client s!"Backend at {client.link.endpoint} answered PING"
    Session.enter .ready
    match ← client.ask "RUN_BEGIN" (Wire.encodeRequest (.runBegin client.outputFile))
        judgeAck with
    | .ok () => Action.debug .client "RUN_BEGIN acknowledged"
    | .error reason =>
      Action.warn .client s!"RUN_BEGIN not acknowledged ({reason.message}), continuing"
    client.requestDetector

/-- Report how the propagation of an event ended. -/
def conclude (event : UInt32) : Except PeerError Wire.SimReply × PhotoelectronBatch →
    Action (Session σ) (Outcome × PhotoelectronBatch)
  | (.ok .complete, out) => do
    Action.debug .client s!"Event {event.toNat}: {out.size} photoelectrons"
    return (.complete, out)
  | (.ok .deferred, out) => do
    Action.info .client s!"Event {event.toNat}: backend deferred the results, recording zero PE"
    return (.deferred, out)
  | (.error reason, out) => do
    Action.warn .client
      s!"Event {event.toNat}: propagation failed ({reason.message}), recording zero PE"
    return (.failed, out.clear.setEvent event)

/-- Ship the photons of one event and collect the photoelectrons in `out`. Nothing
is sent unless the session is ready. -/
def propagate (client : Client σ) (photons : PhotonBatch) (out : PhotoelectronBatch) :
    Action (Session σ) (Outcome × PhotoelectronBatch) := do
  let event := photons.event
  let session ← Action.get
  if session.phase ≠ .ready then
    let phase := session.phase.name
    Action.warn .client
      s!"Event {event.toNat}: client is {phase}, not ready for photons; recording zero PE"
    return (.failed, out.clear.setEvent event)
  Action.debug .client
    s!"Shipping off {photons.size} photons ({photons.wireSize / 1024} KiB) for event {event.toNat}"
  Session.enter .awaitingReply
  let answered ← client.exchange "PHOTONDATA" (Wire.encodePhotons photons)
    (judgeSimReply event) out
  Session.enter .ready
  conclude event answered

/-- A batch stays aligned, whatever the backend answers. -/
theorem aligned_propagate (client : Client σ) (photons : PhotonBatch) {out : PhotoelectronBatch}
    (session : Session σ) (aligned : out.Aligned) :
    (client.propagate photons out session).value.2.Aligned := by
  have kept : ∀ reply (out : PhotoelectronBatch), out.Aligned →
      (judgeSimReply photons.event reply out).2.Aligned := by
    intro reply out aligned
    have decoded : (Wire.decodeSimReply reply photons.event out).2.Aligned :=
      Wire.aligned_decodeSimReply aligned
    unfold judgeSimReply
    split <;> rename_i found <;> rwa [found] at decoded
  simp only [propagate, Action.get_bind]
  split
  · exact PhotoelectronBatch.aligned_clear out
  · simp only [Action.bind_value]
    generalize asked : client.exchange "PHOTONDATA" _ _ out _ = answered
    have received : answered.value.2.Aligned := asked ▸
      client.memory_exchangeFrom kept _ out _ aligned
    match found : answered.value with
    | (.ok .complete, batch) => simpa [conclude, found] using received
    | (.ok .deferred, batch) => simpa [conclude, found] using received
    | (.error reason, batch) => simp [conclude]

/-- Announce the end of the run, as well as may be, and close the session. A
closed session stays as it is. -/
def stop (client : Client σ) : Action (Session σ) Unit := do
  let session ← Action.get
  if session.phase = .closed then return ()
  match ← client.ask "RUN_END" (Wire.encodeRequest .runEnd) judgeAck with
  | .ok () => Action.info .client "Backend acknowledged RUN_END"
  | .error reason => Action.warn .client s!"RUN_END not acknowledged: {reason.message}"
  Session.disconnect
  Session.enter .closed

/-- The positions of the backend's photomultipliers; a session that knows no
detector is started first. -/
def positions (client : Client σ) :
    Action (Session σ) (Except StartError (List (Point Double))) := do
  let session ← Action.get
  match session.detector with
  | some info => return .ok info.positions
  | none =>
    match ← client.start with
    | .ok info => return .ok info.positions
    | .error reason => return .error reason

end Client

end PhotonFerry
