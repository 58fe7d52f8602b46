import PhotonFerry.Client.Session
import PhotonFerry.Proofs.Client.Forgetting
import PhotonFerry.Proofs.Client.Retries
/-!
# Photoelectrons of the right event

Whatever arrives, the photoelectrons that a client hands out for an event come
from one reply: the first that counts for this event among those behind the last
sending of its photons. In every other case the batch is empty. What the batch
held before leaves no trace.
-/

namespace PhotonFerry

namespace Client

variable {σ : Type} (client : Client σ)

/-- A reply is taken into a batch exactly when it counts for the event. -/
theorem decodeSimReply_ok_iff {event : UInt32} {reply : Wire.Message}
    {prior out : PhotoelectronBatch} {answer : Wire.SimReply} :
    Wire.decodeSimReply reply event prior = (.ok answer, out) ↔
      Wire.readSimReply reply event = .ok (answer, out) := by
  unfold Wire.decodeSimReply
  split <;> simp_all

/-- A reply is accepted exactly when it counts for the event. -/
theorem judgeSimReply_accept_iff {event : UInt32} {reply : Wire.Message}
    {prior out : PhotoelectronBatch} {answer : Wire.SimReply} :
    judgeSimReply event reply prior = (.accept answer, out) ↔
      Wire.readSimReply reply event = .ok (answer, out) := by
  rw [judgeSimReply, Wire.decodeSimReply]
  cases Wire.readSimReply reply event <;> simp [Prod.ext_iff]

/-- A reply that is discarded leaves every batch as it was. -/
theorem decodeSimReply_of_reject {event : UInt32} {reply : Wire.Message}
    {memory : PhotoelectronBatch} {reason : Wire.WireError}
    (judged : (judgeSimReply event reply memory).1 = .reject reason) (prior : PhotoelectronBatch) :
    Wire.decodeSimReply reply event prior = (.error reason, prior) := by
  unfold judgeSimReply at judged
  unfold Wire.decodeSimReply at judged ⊢
  cases found : Wire.readSimReply reply event with
  | ok answer => simp [found] at judged
  | error flaw => simpa [found] using judged

theorem forgetful_judgeSimReply (event : UInt32) : (judgeSimReply event).Forgetful := by
  intro reply first second
  unfold judgeSimReply Wire.decodeSimReply
  cases Wire.readSimReply reply event with
  | ok answer => exact ⟨rfl, fun _ _ => rfl⟩
  | error reason => exact ⟨rfl, fun _ accepted => nomatch accepted⟩

/-- What the batch held before leaves no trace. -/
theorem propagate_forgets (photons : PhotonBatch) (first second : PhotoelectronBatch)
    (session : Session σ) :
    client.propagate photons first session = client.propagate photons second session := by
  let finish (answered : Except PeerError Wire.SimReply × PhotoelectronBatch) :
      Action (Session σ) (Outcome × PhotoelectronBatch) := do
    Session.enter .ready
    conclude photons.event answered
  have same : client.exchange "PHOTONDATA" (Wire.encodePhotons photons)
        (judgeSimReply photons.event) first >>= finish =
      client.exchange "PHOTONDATA" (Wire.encodePhotons photons)
        (judgeSimReply photons.event) second >>= finish := by
    funext before
    have alike := client.exchange_forgets "PHOTONDATA" (Wire.encodePhotons photons)
      (forgetful_judgeSimReply photons.event) first second before
    rw [Action.bind_apply, Action.bind_apply]
    generalize client.exchange _ _ _ first before = one at alike ⊢
    generalize client.exchange _ _ _ second before = other at alike ⊢
    obtain ⟨⟨answer, batch⟩, after, journal⟩ := one
    obtain ⟨⟨_, kept⟩, _, _⟩ := other
    obtain ⟨rfl, rfl, rfl, remembered⟩ := alike
    cases answer with
    | error reason => rfl
    | ok reply =>
      obtain rfl : batch = kept := remembered reply rfl
      rfl
  simp only [propagate, Action.get_bind]
  split
  · rfl
  · exact congrArg (fun last => (Action.debug .client _ >>= fun _ =>
      Session.enter .awaitingReply >>= fun _ => last) session) same

/-- What a client makes of the end of an exchange. -/
def received (event : UInt32) :
    Except PeerError Wire.SimReply × PhotoelectronBatch → Outcome × PhotoelectronBatch
  | (.ok .complete, out) => (.complete, out)
  | (.ok .deferred, out) => (.deferred, out)
  | (.error _, _) => (.failed, { event := event })

theorem conclude_apply (event : UInt32)
    (answered : Except PeerError Wire.SimReply × PhotoelectronBatch) (session : Session σ) :
    (conclude event answered session).value = received event answered ∧
      (conclude event answered session).state = session := by
  obtain ⟨reason | (_ | _), out⟩ := answered
  · exact ⟨rfl, rfl⟩
  · exact ⟨rfl, rfl⟩
  · exact ⟨rfl, rfl⟩

/-- A client that is not ready asks nothing. -/
theorem propagate_of_ne_ready {photons : PhotonBatch} {out : PhotoelectronBatch}
    {session : Session σ} (busy : session.phase ≠ .ready) :
    (client.propagate photons out session).value = (.failed, { event := photons.event }) ∧
      (client.propagate photons out session).state = session := by
  simp only [propagate, Action.get_bind, busy, ne_eq, not_false_eq_true, if_true]
  exact ⟨rfl, rfl⟩

/-- A client that is ready makes one exchange. -/
theorem propagate_of_ready {photons : PhotonBatch} {out : PhotoelectronBatch}
    {session : Session σ} (ready : session.phase = .ready) :
    let exchanged := client.exchange "PHOTONDATA" (Wire.encodePhotons photons)
      (judgeSimReply photons.event) out { session with phase := .awaitingReply }
    (client.propagate photons out session).value = received photons.event exchanged.value ∧
      (client.propagate photons out session).state = { exchanged.state with phase := .ready } := by
  intro exchanged
  simp only [propagate, Action.get_bind, ready, ne_eq, not_true, if_false]
  exact conclude_apply photons.event exchanged.value { exchanged.state with phase := .ready }

/-- The exchange in which the photons of an event are answered, over any transport. -/
def photonLoop (transport : Transport σ) (maxRetries : UInt32) (photons : PhotonBatch) :
    RetryLoop σ PhotoelectronBatch Wire.SimReply :=
  ⟨transport, maxRetries, "PHOTONDATA", Wire.encodePhotons photons, judgeSimReply photons.event⟩

/-- What is handed out for an event is its own, by the calls that were made for it. -/
structure OwnPhotoelectrons (photons : PhotonBatch) (held : Bool) (calls : List Call)
    (connected : Bool) (handed : Outcome × PhotoelectronBatch) : Prop where
  event : handed.2.event = photons.event
  /-- The photoelectrons are those of a reply that counts for the event. It came on
  the connection that is still held, behind the last sending of the photons, and
  every message between the two was refused for the event. -/
  complete : handed.1 = .complete → connected = true ∧
    ∃ (earlier : List Call) (discarded : List Wire.Message) (reply : Wire.Message),
      calls = earlier ++ .send (Wire.encodePhotons photons) (.ok ()) ::
        discarded.map Call.delivery ++ [.delivery reply] ∧
      heldAfter held earlier = true ∧
      (∀ other ∈ discarded, ∃ reason, ∀ prior,
        Wire.decodeSimReply other photons.event prior = (.error reason, prior)) ∧
      ∀ prior, Wire.decodeSimReply reply photons.event prior = (.ok .complete, handed.2)
  empty : handed.1 ≠ .complete → handed.2 = { event := photons.event }

theorem ownPhotoelectrons_failed (photons : PhotonBatch) (held : Bool) (calls : List Call)
    (connected : Bool) :
    OwnPhotoelectrons photons held calls connected (.failed, { event := photons.event }) where
  event := rfl
  complete complete := nomatch complete
  empty _ := rfl

section Answered

variable {transport : Transport σ} {maxRetries : UInt32} {photons : PhotonBatch}
  {out : PhotoelectronBatch} {session : Session σ}
  {outcome : Traced (Session (Watched σ)) (Except PeerError Wire.SimReply × PhotoelectronBatch)}

/-- Where the answer to an event's photons came from. -/
theorem answered_of_settles
    (settled : (photonLoop transport maxRetries photons).watched.Settles (.start out)
      session.watched outcome) {answer : Wire.SimReply} (answered : outcome.value.1 = .ok answer) :
    outcome.state.connected = true ∧
      ∃ (earlier : List Call) (discarded : List Wire.Message) (reply : Wire.Message),
        outcome.state.calls = earlier ++ .send (Wire.encodePhotons photons) (.ok ()) ::
          discarded.map Call.delivery ++ [.delivery reply] ∧
        heldAfter session.connected earlier = true ∧
        (∀ other ∈ discarded, ∃ reason, ∀ prior,
          Wire.decodeSimReply other photons.event prior = (.error reason, prior)) ∧
        Wire.readSimReply reply photons.event = .ok (answer, outcome.value.2) := by
  obtain ⟨lost, accounted⟩ := settled.accounted
  obtain ⟨earlier, discarded, reply, calls, held, refused, memory, judged⟩ :=
    accounted.accepted (congrArg Stage.ended answered)
  have permitted := accounted.booked.orderly earlier (.send (Wire.encodePhotons photons) (.ok ()))
    (discarded.map Call.delivery ++ [.delivery reply])
    (calls.trans (by rw [List.append_assoc]; rfl))
  refine ⟨held, earlier, discarded, reply, calls, permitted.2.2.1, fun other member => ?_,
    judgeSimReply_accept_iff.mp judged⟩
  obtain ⟨_, reason, rejected⟩ := refused other member
  exact ⟨reason, decodeSimReply_of_reject rejected⟩

/-- However an exchange ends, what is handed out is the event's own. -/
theorem ownPhotoelectrons_of_settles
    (settled : (photonLoop transport maxRetries photons).watched.Settles (.start out)
      session.watched outcome) :
    OwnPhotoelectrons photons session.connected outcome.state.calls outcome.state.connected
      (received photons.event outcome.value) := by
  obtain ⟨⟨answer, batch⟩, after, journal⟩ := outcome
  cases answer with
  | error reason => exact ownPhotoelectrons_failed photons _ _ _
  | ok answer =>
    obtain ⟨held, earlier, discarded, reply, calls, connected, refused, read⟩ :=
      answered_of_settles settled rfl
    obtain ⟨event, empty⟩ := Wire.event_of_readSimReply read
    cases answer with
    | complete =>
      exact {
        event
        complete _ := ⟨held, earlier, discarded, reply, calls, connected, refused,
          fun prior => decodeSimReply_ok_iff.mpr read⟩
        empty other := absurd rfl other }
    | deferred =>
      exact {
        event
        complete complete := nomatch complete
        empty _ := empty rfl }

end Answered

/-- Whatever the transport answers, an event gets its own photoelectrons or none,
and nothing depends on what the batch held before. This holds wherever an exchange
over a transport ends, and so of every propagation. -/
theorem propagate_own_photoelectrons (photons : PhotonBatch) (out : PhotoelectronBatch)
    (session : Session σ) :
    (∀ (transport : Transport σ) (maxRetries : UInt32) outcome,
      (photonLoop transport maxRetries photons).watched.Settles (.start out) session.watched
          outcome →
        OwnPhotoelectrons photons session.connected outcome.state.calls outcome.state.connected
          (received photons.event outcome.value) ∧
        ∀ other, ∃ final,
          (photonLoop transport maxRetries photons).watched.Settles (.start other) session.watched
            final ∧
          received photons.event final.value = received photons.event outcome.value ∧
          final.state = outcome.state ∧ final.journal = outcome.journal) ∧
    ∀ client : Client σ,
      let result := client.propagate photons out session
      let watched := client.watched.propagate photons out session.watched
      watched.unwatched = result ∧
      OwnPhotoelectrons photons session.connected watched.state.calls result.state.connected
        result.value ∧
      ∀ other, client.propagate photons other session = result := by
  constructor
  · intro transport maxRetries outcome settled
    refine ⟨ownPhotoelectrons_of_settles settled, fun other => ?_⟩
    obtain ⟨memory, ended, remembered⟩ :=
      settled.forgets (forgetful_judgeSimReply photons.event) other
    refine ⟨_, ended, ?_, rfl, rfl⟩
    obtain ⟨⟨answer, batch⟩, after, journal⟩ := outcome
    cases answer with
    | error reason => rfl
    | ok reply =>
      obtain rfl : batch = memory := remembered reply rfl
      rfl
  · intro client result watched
    have mirrored : watched.unwatched = result :=
      client.carried_watched.propagate photons out session.watched
    have value : watched.value = result.value := congrArg Traced.value mirrored
    have connected : watched.state.connected = result.state.connected :=
      congrArg (fun result => result.state.connected) mirrored
    refine ⟨mirrored, ?_, fun other => client.propagate_forgets photons other out session⟩
    rw [← value, ← connected]
    by_cases ready : session.phase = .ready
    · let awaiting : Session σ := { session with phase := .awaitingReply }
      let exchanged := client.watched.exchange "PHOTONDATA" (Wire.encodePhotons photons)
        (judgeSimReply photons.event) out awaiting.watched
      obtain ⟨made, reached⟩ : watched.value = received photons.event exchanged.value ∧
          watched.state = { exchanged.state with phase := .ready } :=
        client.watched.propagate_of_ready ready
      have settled : (photonLoop client.link.toTransport client.maxRetries photons).watched.Settles
          (.start out) awaiting.watched exchanged :=
        client.watched.settles_exchange _ _ _ _ _
      have own := ownPhotoelectrons_of_settles settled
      rw [made, reached]
      exact own
    · have made : watched.value = (.failed, { event := photons.event }) :=
        (client.watched.propagate_of_ne_ready ready).1
      rw [made]
      exact ownPhotoelectrons_failed photons _ _ _

end Client

end PhotonFerry
