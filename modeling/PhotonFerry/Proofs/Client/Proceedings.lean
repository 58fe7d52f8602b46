import PhotonFerry.Proofs.Client.Operations
import PhotonFerry.Proofs.Client.Requests
/-!
# Operations that are under way

`Performs` is about operations that end, and over an arbitrary transport an operation
need not. `Proceeds` says which calls an operation has made at some moment, whether it
ends or not: those of its exchanges that have ended, and those that its present
exchange has made after so many steps. At every moment the connection is kept.
-/

namespace PhotonFerry

/-- The calls of a start, told apart by the exchange that made them. -/
structure StartCalls where
  ping : List Call := []
  runBegin : List Call := []
  detectorInfo : List Call := []

/-- All calls of a start, in the order in which they are made. -/
def StartCalls.all (calls : StartCalls) : List Call :=
  calls.ping ++ calls.runBegin ++ calls.detectorInfo

/-- The number of attempts at each exchange. -/
def Caller.attempts {σ : Type} (caller : Caller σ) : Nat :=
  attemptsUnder caller.maxRetries

namespace RetryLoop

variable {σ τ α : Type} (loop : RetryLoop σ τ α)

/-- The calls that an exchange has made after so many steps. -/
def callsAfter (memory : τ) (session : Session σ) (steps : Nat) : List Call :=
  (loop.watched.run steps (.start memory) session.watched).state.calls

/-- At every moment the calls of an exchange are in order. -/
theorem orderly_callsAfter (memory : τ) (session : Session σ) (steps : Nat) :
    Orderly loop.attempts loop.request session.connected (loop.callsAfter memory session steps) :=
  (loop.accounted_run session memory steps).booked.orderly

variable {loop} {memory : τ} {session : Session σ}
  {outcome : Traced (Session (Watched σ)) (Except PeerError α × τ)}

/-- The calls of an exchange that ended are those that it has made at the end. -/
theorem EndsIn.exists_callsAfter (ended : loop.EndsIn memory session outcome) :
    ∃ steps, loop.callsAfter memory session steps = outcome.state.calls := by
  obtain ⟨steps, lost, reached⟩ := ended
  exact ⟨steps, by rw [callsAfter, reached]⟩

/-- An exchange that ended has kept its contract. -/
theorem EndsIn.contract (ended : loop.EndsIn memory session outcome) :
    ∃ lost, loop.Contract session memory outcome.state.calls
      ⟨outcome.value.2, lost, .ended outcome.value.1⟩ outcome.state.unwatched := by
  obtain ⟨lost, accounted⟩ := Settles.accounted ended
  exact ⟨lost, accounted.contract⟩

theorem EndsIn.orderly (ended : loop.EndsIn memory session outcome) :
    Orderly loop.attempts loop.request session.connected outcome.state.calls := by
  obtain ⟨lost, contract⟩ := ended.contract
  exact contract.orderly

theorem EndsIn.connected (ended : loop.EndsIn memory session outcome) :
    outcome.state.unwatched.connected = heldAfter session.connected outcome.state.calls := by
  obtain ⟨lost, contract⟩ := ended.contract
  exact contract.connected

/-- A result is reached on a connection, unless it is that the attempts were used up. -/
theorem Fits.connected_iff {account : Account τ α} (fits : loop.Fits memory account)
    {result : Except PeerError α} (ended : account.standing.stage = .ended result) :
    account.connected = true ↔ result ≠ .error (.retriesExhausted loop.attempts) := by
  cases fits with
  | opening | sending | waiting => exact nomatch ended
  | accepted | aborted | exhausted =>
    obtain rfl := Stage.ended.inj ended
    simp

theorem EndsIn.connected_iff (ended : loop.EndsIn memory session outcome) :
    outcome.state.unwatched.connected = true ↔
      outcome.value.1 ≠ .error (.retriesExhausted loop.attempts) := by
  obtain ⟨lost, accounted⟩ := Settles.accounted ended
  exact accounted.fits.connected_iff rfl

/-- No result is reached without a call. -/
theorem Fits.calls_ne_nil {account : Account τ α} (fits : loop.Fits memory account)
    {result : Except PeerError α} (ended : account.standing.stage = .ended result) :
    account.calls ≠ [] := by
  cases fits with
  | opening | sending | waiting => exact nomatch ended
  | accepted | aborted => simp
  | @exhausted _ _ _ calls spent =>
    have positive := loop.attempts_pos
    rintro (rfl : calls = [])
    exact absurd spent (Nat.ne_of_lt positive)

theorem EndsIn.calls_ne_nil (ended : loop.EndsIn memory session outcome) :
    outcome.state.calls ≠ [] := by
  obtain ⟨lost, accounted⟩ := Settles.accounted ended
  exact accounted.fits.calls_ne_nil rfl

end RetryLoop

section Moments

variable {σ : Type} (caller : Caller σ) (session : Session σ)

/-- The calls that a start has made at some moment. -/
inductive Starting : StartCalls → Prop where
  | ping (steps : Nat) :
      Starting { ping := caller.ping.callsAfter () (session.inPhase .handshaking) steps }
  | runBegin {pinged} (ping : caller.ping.EndsIn () (session.inPhase .handshaking) pinged)
      (answered : pinged.value.1 = .ok ()) (steps : Nat) :
      Starting {
        ping := pinged.state.calls
        runBegin := caller.runBegin.callsAfter () (pinged.state.unwatched.inPhase .ready) steps }
  | detectorInfo {pinged begun}
      (ping : caller.ping.EndsIn () (session.inPhase .handshaking) pinged)
      (answered : pinged.value.1 = .ok ())
      (runBegin : caller.runBegin.EndsIn () (pinged.state.unwatched.inPhase .ready) begun)
      (steps : Nat) :
      Starting {
        ping := pinged.state.calls
        runBegin := begun.state.calls
        detectorInfo := caller.detectorInfo.callsAfter ()
          (begun.state.unwatched.inPhase .awaitingDetectorInfo) steps }

/-- The calls that an operation has made at some moment. -/
inductive Proceeds : Operation → List Call → Prop where
  /-- At first no call was made. -/
  | begun {operation} : Proceeds operation []
  | start {calls} (starting : Starting caller session calls) : Proceeds .start calls.all
  | positions {calls} (unknown : session.detector = none)
      (starting : Starting caller session calls) : Proceeds .positions calls.all
  | propagate {photons out} (ready : session.phase = .ready) (steps : Nat) :
      Proceeds (.propagate photons out)
        ((caller.photonData photons).callsAfter out (session.inPhase .awaitingReply) steps)
  | stop (unclosed : session.phase ≠ .closed) (steps : Nat) :
      Proceeds .stop (caller.runEnd.callsAfter () session steps)

variable {caller session}

/-- A start whose ping has ended. -/
theorem starting_of_ping {pinged : Traced (Session (Watched σ)) (Except PeerError Unit × Unit)}
    (ping : caller.ping.EndsIn () (session.inPhase .handshaking) pinged) :
    Starting caller session { ping := pinged.state.calls } := by
  obtain ⟨steps, made⟩ := ping.exists_callsAfter
  exact made ▸ .ping steps

/-- A start whose exchanges have all ended. -/
theorem Greeted.starting
    {pinged begun : Traced (Session (Watched σ)) (Except PeerError Unit × Unit)}
    {asked : Traced (Session (Watched σ)) (Except PeerError DetectorInfo × Unit)}
    (greeted : Greeted caller session pinged begun asked) :
    Starting caller session
      ⟨pinged.state.calls, begun.state.calls, asked.state.calls⟩ := by
  obtain ⟨steps, made⟩ := greeted.detectorInfo.exists_callsAfter
  exact made ▸ .detectorInfo greeted.ping greeted.answered greeted.runBegin steps

/-- The calls of a start that ended were made at its last moment. -/
theorem Starts.starting {result : Except StartError DetectorInfo} {calls : List Call}
    {after : Session σ} (starts : Starts caller session result calls after) :
    ∃ parts, Starting caller session parts ∧ parts.all = calls := by
  cases starts with
  | unanswered ping failed => exact ⟨_, starting_of_ping ping, by simp [StartCalls.all]⟩
  | undescribed greeted failed | described greeted described => exact ⟨_, greeted.starting, rfl⟩

/-- The calls of an operation that ended were made at its last moment. -/
theorem Performs.proceeds {operation : Operation} {performance : Performance σ}
    (performed : Performs caller session operation performance) :
    Proceeds caller session operation performance.calls := by
  cases performed with
  | start starts =>
    obtain ⟨parts, starting, rfl⟩ := starts.starting
    exact .start starting
  | unknown unknown starts =>
    obtain ⟨parts, starting, rfl⟩ := starts.starting
    exact .positions unknown starting
  | known | unready | closed => exact .begun
  | propagate ready shipped =>
    obtain ⟨steps, made⟩ := shipped.exists_callsAfter
    exact made ▸ .propagate ready steps
  | stop unclosed runEnd =>
    obtain ⟨steps, made⟩ := runEnd.exists_callsAfter
    exact made ▸ .stop unclosed steps

/-- A client over a link proceeds in each of its operations. -/
theorem Client.proceeds (client : Client σ) (session : Session σ) (operation : Operation) :
    let watched := client.watched.perform operation session.watched
    watched.unwatched = client.perform operation session ∧
      Proceeds client.caller session operation watched.state.calls := by
  obtain ⟨mirrored, begun, performed⟩ := client.performs operation session
  exact ⟨mirrored, performed.proceeds⟩

/-- The exchanges of a start are in order, each on the connection that the ones before it
have left. -/
structure StartCalls.InTurn (caller : Caller σ) (held : Bool) (calls : StartCalls) : Prop where
  ping : Orderly caller.attempts (Wire.encodeRequest .ping) held calls.ping
  runBegin : Orderly caller.attempts (Wire.encodeRequest (.runBegin caller.outputFile))
    (heldAfter held calls.ping) calls.runBegin
  detectorInfo : Orderly caller.attempts (Wire.encodeRequest .detectorInfo)
    (heldAfter held (calls.ping ++ calls.runBegin)) calls.detectorInfo

/-- Exchanges in order keep the connection, from one to the next. -/
theorem StartCalls.InTurn.keepsConnection {held : Bool} {calls : StartCalls}
    (inTurn : calls.InTurn caller held) : KeepsConnection held calls.all :=
  (inTurn.ping.keepsConnection.append inTurn.runBegin.keepsConnection).append
    inTurn.detectorInfo.keepsConnection

/-- At every moment the exchanges of a start are in order. -/
theorem Starting.inTurn {calls : StartCalls} (starting : Starting caller session calls) :
    calls.InTurn caller session.connected := by
  cases starting with
  | ping steps => exact ⟨caller.ping.orderly_callsAfter () _ steps, .nil, .nil⟩
  | @runBegin pinged ping answered steps =>
    have announcing := caller.runBegin.orderly_callsAfter ()
      (pinged.state.unwatched.inPhase .ready) steps
    have left : (pinged.state.unwatched.inPhase .ready).connected = _ := ping.connected
    rw [left] at announcing
    exact ⟨ping.orderly, announcing, .nil⟩
  | @detectorInfo pinged begun ping answered runBegin steps =>
    have asking := caller.detectorInfo.orderly_callsAfter ()
      (begun.state.unwatched.inPhase .awaitingDetectorInfo) steps
    have announced := runBegin.orderly
    have left : (pinged.state.unwatched.inPhase .ready).connected = _ := ping.connected
    have kept : (begun.state.unwatched.inPhase .awaitingDetectorInfo).connected = _ :=
      runBegin.connected
    rw [left] at announced kept
    rw [kept, ← heldAfter_append] at asking
    exact ⟨ping.orderly, announced, asking⟩

/-- Every operation keeps the connection. -/
theorem Proceeds.keepsConnection {operation : Operation} {calls : List Call}
    (proceeds : Proceeds caller session operation calls) :
    KeepsConnection session.connected calls := by
  cases proceeds with
  | begun => exact .nil
  | start starting | positions unknown starting => exact starting.inTurn.keepsConnection
  | propagate ready steps =>
    exact ((caller.photonData _).orderly_callsAfter _ _ steps).keepsConnection
  | stop unclosed steps => exact (caller.runEnd.orderly_callsAfter () _ steps).keepsConnection

end Moments

end PhotonFerry
