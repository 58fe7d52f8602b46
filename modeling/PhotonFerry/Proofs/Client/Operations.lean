import PhotonFerry.Proofs.Client.Frame
import PhotonFerry.Proofs.Client.Photoelectrons
/-!
# The operations of a client

Over an arbitrary transport an exchange need not end, and neither need an
operation. `Performs` says of the operations that do end how they can go: which
exchanges they make one behind the other, what they give back, and what they leave.
A client over a link performs each of its operations in one of these ways.
-/

namespace PhotonFerry

/-- What can be asked of a client. -/
inductive Operation where
  | start
  | propagate (photons : PhotonBatch) (out : PhotoelectronBatch)
  | positions
  | stop

/-- What an operation gives back. -/
inductive Answer where
  | started (result : Except StartError DetectorInfo)
  | propagated (handed : Outcome × PhotoelectronBatch)
  | located (result : Except StartError (List (Point Double)))
  | stopped

/-- What a client works with, over a transport that may deliver messages for ever. -/
structure Caller (σ : Type) where
  transport : Transport σ
  maxRetries : UInt32
  outputFile : String

/-- The session in another phase. -/
def Session.inPhase {σ : Type} (session : Session σ) (phase : Phase) : Session σ :=
  { session with phase }

namespace Client

variable {σ : Type} (client : Client σ)

/-- What this client works with. -/
def caller : Caller σ :=
  ⟨client.link.toTransport, client.maxRetries, client.outputFile⟩

/-- Do one operation. -/
def perform : Operation → Action (Session σ) Answer
  | .start => do return .started (← client.start)
  | .propagate photons out => do return .propagated (← client.propagate photons out)
  | .positions => do return .located (← client.positions)
  | .stop => do
    client.stop
    return .stopped

end Client

namespace Caller

variable {σ α : Type} (caller : Caller σ)

/-- The exchange for a request whose replies are judged one by one. -/
def asking (what : String) (request : Wire.Message) (verdict : Wire.Message → Verdict α) :
    RetryLoop σ Unit α :=
  ⟨caller.transport, caller.maxRetries, what, request, Judge.ofReply verdict⟩

def ping : RetryLoop σ Unit Unit :=
  caller.asking "PING" (Wire.encodeRequest .ping) Client.judgeAck

def runBegin : RetryLoop σ Unit Unit :=
  caller.asking "RUN_BEGIN" (Wire.encodeRequest (.runBegin caller.outputFile)) Client.judgeAck

def detectorInfo : RetryLoop σ Unit DetectorInfo :=
  caller.asking "DETECTOR_INFO" (Wire.encodeRequest .detectorInfo) Client.judgeDetectorInfo

def runEnd : RetryLoop σ Unit Unit :=
  caller.asking "RUN_END" (Wire.encodeRequest .runEnd) Client.judgeAck

def photonData (photons : PhotonBatch) : RetryLoop σ PhotoelectronBatch Wire.SimReply :=
  Client.photonLoop caller.transport caller.maxRetries photons

end Caller

/-- What came of an operation. -/
structure Performance (σ : Type) where
  answer : Answer
  /-- How the start ended that the operation made, if it made one. -/
  begun : Option (Except StartError DetectorInfo)
  /-- The calls that the exchanges of the operation made. -/
  calls : List Call
  after : Session σ

section Ways

variable {σ : Type} (caller : Caller σ) (session : Session σ)

/-- The exchanges of a start that was answered, one behind the other. -/
structure Greeted (pinged begun : Traced (Session (Watched σ)) (Except PeerError Unit × Unit))
    (asked : Traced (Session (Watched σ)) (Except PeerError DetectorInfo × Unit)) : Prop where
  ping : caller.ping.EndsIn () (session.inPhase .handshaking) pinged
  answered : pinged.value.1 = .ok ()
  /-- However the announcement of the run ends, the start goes on. -/
  runBegin : caller.runBegin.EndsIn () (pinged.state.unwatched.inPhase .ready) begun
  detectorInfo : caller.detectorInfo.EndsIn ()
    (begun.state.unwatched.inPhase .awaitingDetectorInfo) asked

/-- The ways in which a start can go. -/
inductive Starts : Except StartError DetectorInfo → List Call → Session σ → Prop where
  /-- The backend did not answer. -/
  | unanswered {pinged reason}
      (ping : caller.ping.EndsIn () (session.inPhase .handshaking) pinged)
      (failed : pinged.value.1 = .error reason) :
      Starts (.error (.handshake reason)) pinged.state.calls
        (pinged.state.unwatched.inPhase .disconnected)
  /-- The backend answered and did not describe its detector. -/
  | undescribed {pinged begun asked reason} (greeted : Greeted caller session pinged begun asked)
      (failed : asked.value.1 = .error reason) :
      Starts (.error (.detectorInfo reason))
        (pinged.state.calls ++ begun.state.calls ++ asked.state.calls)
        (asked.state.unwatched.inPhase .disconnected)
  /-- The backend described its detector. -/
  | described {pinged begun asked info} (greeted : Greeted caller session pinged begun asked)
      (described : asked.value.1 = .ok info) :
      Starts (.ok info) (pinged.state.calls ++ begun.state.calls ++ asked.state.calls)
        { asked.state.unwatched with phase := .ready, detector := some info }

/-- The ways in which an operation can go. -/
inductive Performs : Operation → Performance σ → Prop where
  | start {result calls after} (starts : Starts caller session result calls after) :
      Performs .start ⟨.started result, some result, calls, after⟩
  /-- The positions are known. -/
  | known {info} (known : session.detector = some info) :
      Performs .positions ⟨.located (.ok info.positions), none, [], session⟩
  /-- The positions are asked for. -/
  | unknown {result calls after} (unknown : session.detector = none)
      (starts : Starts caller session result calls after) :
      Performs .positions
        ⟨.located (result.map DetectorInfo.positions), some result, calls, after⟩
  /-- A client that is not ready ships nothing. -/
  | unready {photons out} (unready : session.phase ≠ .ready) :
      Performs (.propagate photons out)
        ⟨.propagated (.failed, { event := photons.event }), none, [], session⟩
  | propagate {photons out outcome} (ready : session.phase = .ready)
      (shipped : (caller.photonData photons).EndsIn out (session.inPhase .awaitingReply) outcome) :
      Performs (.propagate photons out)
        ⟨.propagated (Client.received photons.event outcome.value), none, outcome.state.calls,
          outcome.state.unwatched.inPhase .ready⟩
  /-- A closed client stays as it is. -/
  | closed (closed : session.phase = .closed) :
      Performs .stop ⟨.stopped, none, [], session⟩
  | stop {outcome} (unclosed : session.phase ≠ .closed)
      (runEnd : caller.runEnd.EndsIn () session outcome) :
      Performs .stop ⟨.stopped, none, outcome.state.calls,
        { outcome.state.unwatched with connected := false, phase := .closed }⟩

/-- There is one way only in which photons are propagated. -/
theorem Performs.propagate_unique {caller : Caller σ} {session : Session σ}
    {photons : PhotonBatch} {out : PhotoelectronBatch} {first second : Performance σ}
    (here : Performs caller session (.propagate photons out) first)
    (there : Performs caller session (.propagate photons out) second) : first = second := by
  cases here with
  | unready busy =>
    cases there with
    | unready => rfl
    | propagate ready => exact absurd ready busy
  | propagate ready shipped =>
    cases there with
    | unready busy => exact absurd ready busy
    | propagate _ other => rw [shipped.unique other]

end Ways

namespace Client

variable {σ τ α : Type} (client : Client σ)

section Exits

variable {session : Session σ} {greeting announcing : Traced (Session σ) (Except PeerError Unit)}
  {asked : Traced (Session σ) (Except PeerError DetectorInfo)} {reason : PeerError}

/-- A start ends where the backend does not answer. -/
theorem start_unanswered
    (ping : client.ask "PING" (Wire.encodeRequest .ping) judgeAck
      (session.inPhase .handshaking) = greeting)
    (failed : greeting.value = .error reason) :
    (client.start session).value = .error (.handshake reason) ∧
      (client.start session).state = greeting.state.inPhase .disconnected := by
  subst ping
  have failed : (client.ask "PING" (Wire.encodeRequest .ping) judgeAck
      { session with phase := .handshaking }).value = .error reason := failed
  simp only [start, Session.enter, Action.bind_value, Action.bind_state, Action.modify_apply,
    failed, Action.pure_apply, true_and]
  rfl

/-- A start that is answered announces the run and asks for the detector. -/
theorem start_answered
    (ping : client.ask "PING" (Wire.encodeRequest .ping) judgeAck
      (session.inPhase .handshaking) = greeting)
    (answered : greeting.value = .ok ())
    (runBegin : client.ask "RUN_BEGIN" (Wire.encodeRequest (.runBegin client.outputFile)) judgeAck
      (greeting.state.inPhase .ready) = announcing) :
    (client.start session).value = (client.requestDetector announcing.state).value ∧
      (client.start session).state = (client.requestDetector announcing.state).state := by
  subst ping
  subst runBegin
  have answered : (client.ask "PING" (Wire.encodeRequest .ping) judgeAck
      { session with phase := .handshaking }).value = .ok () := answered
  simp only [start, Session.enter, Action.bind_value, Action.bind_state, Action.modify_apply,
    answered, Action.info, Action.note_apply]
  cases (client.ask "RUN_BEGIN" _ judgeAck _).value <;> exact ⟨rfl, rfl⟩

theorem requestDetector_failed
    (detectorInfo : client.ask "DETECTOR_INFO" (Wire.encodeRequest .detectorInfo)
      judgeDetectorInfo (session.inPhase .awaitingDetectorInfo) = asked)
    (failed : asked.value = .error reason) :
    (client.requestDetector session).value = .error (.detectorInfo reason) ∧
      (client.requestDetector session).state = asked.state.inPhase .disconnected := by
  subst detectorInfo
  have failed : (client.ask "DETECTOR_INFO" (Wire.encodeRequest .detectorInfo) judgeDetectorInfo
      { session with phase := .awaitingDetectorInfo }).value = .error reason := failed
  simp only [requestDetector, Session.enter, Action.bind_value, Action.bind_state,
    Action.modify_apply, failed, Action.pure_apply, true_and]
  rfl

theorem requestDetector_described {info : DetectorInfo}
    (detectorInfo : client.ask "DETECTOR_INFO" (Wire.encodeRequest .detectorInfo)
      judgeDetectorInfo (session.inPhase .awaitingDetectorInfo) = asked)
    (described : asked.value = .ok info) :
    (client.requestDetector session).value = .ok info ∧
      (client.requestDetector session).state =
        { asked.state with phase := .ready, detector := some info } := by
  subst detectorInfo
  have described : (client.ask "DETECTOR_INFO" (Wire.encodeRequest .detectorInfo)
      judgeDetectorInfo { session with phase := .awaitingDetectorInfo }).value = .ok info :=
    described
  simp only [requestDetector, Session.enter, Action.bind_value, Action.bind_state,
    Action.modify_apply, described, Action.info, Action.note_apply, Action.pure_apply, true_and]
  rfl

/-- A client that knows its detector need not ask. -/
theorem positions_known {info : DetectorInfo} (known : session.detector = some info) :
    client.positions session = ⟨.ok info.positions, session, []⟩ := by
  simp only [positions, Action.get_bind, known, Action.pure_apply]

/-- A client that knows no detector starts. -/
theorem positions_unknown (unknown : session.detector = none) :
    (client.positions session).value = (client.start session).value.map DetectorInfo.positions ∧
      (client.positions session).state = (client.start session).state := by
  simp only [positions, Action.get_bind, unknown, Action.bind_value, Action.bind_state]
  cases (client.start session).value <;> exact ⟨rfl, rfl⟩

theorem stop_closed (closed : session.phase = .closed) :
    client.stop session = ⟨(), session, []⟩ := by
  simp only [stop, Action.get_bind, closed, if_true, Action.pure_apply]

theorem stop_unclosed (unclosed : session.phase ≠ .closed)
    (runEnd : client.ask "RUN_END" (Wire.encodeRequest .runEnd) judgeAck session = greeting) :
    (client.stop session).state = { greeting.state with connected := false, phase := .closed } := by
  subst runEnd
  simp only [stop, Action.get_bind, unclosed, if_false, Action.bind_state]
  cases (client.ask "RUN_END" _ judgeAck session).value <;> rfl

end Exits

theorem Carried.perform {ρ : Type} {view : σ → ρ} {first : Client σ} {second : Client ρ}
    (carried : Carried view first second) (operation : Operation) :
    Carries view (first.perform operation) (second.perform operation) := by
  cases operation with
  | start => exact carried.start.bind fun _ => .pure _
  | propagate photons out => exact (carried.propagate photons out).bind fun _ => .pure _
  | positions => exact carried.positions.bind fun _ => .pure _
  | stop => exact carried.stop.bind fun _ => .pure _

/-- A watched exchange comes to its end behind the calls that were watched before. -/
theorem exists_endsIn (what : String) (request : Wire.Message) (judge : Judge τ α) (memory : τ)
    (session : Session (Watched σ)) :
    ∃ exchanged outcome, client.watched.exchange what request judge memory session = exchanged ∧
      (client.retryLoop what request judge).EndsIn memory session.unwatched outcome ∧
      exchanged.value = outcome.value ∧ exchanged.state.unwatched = outcome.state.unwatched ∧
      exchanged.state.calls = session.calls ++ outcome.state.calls := by
  have carried := (client.carried_behind session.calls).exchange what request judge memory
    session.unwatched.watched
  rw [Session.carried_behind_calls] at carried
  exact ⟨_, _, carried.symm,
    client.watched.settles_exchange what request judge memory session.unwatched.watched,
    rfl, rfl, rfl⟩

/-- A question of a watched client with its answer, and the exchange that brought it. -/
structure Asked (what : String) (request : Wire.Message) (verdict : Wire.Message → Verdict α)
    (session : Session (Watched σ)) (answered : Traced (Session (Watched σ)) (Except PeerError α))
    (outcome : Traced (Session (Watched σ)) (Except PeerError α × Unit)) : Prop where
  asks : client.watched.ask what request verdict session = answered
  ended : (client.caller.asking what request verdict).EndsIn () session.unwatched outcome
  value : answered.value = outcome.value.1
  state : answered.state.unwatched = outcome.state.unwatched
  calls : answered.state.calls = session.calls ++ outcome.state.calls

/-- A question gets the answer in which its exchange ends. -/
theorem exists_asked (what : String) (request : Wire.Message) (verdict : Wire.Message → Verdict α)
    (session : Session (Watched σ)) :
    ∃ answered outcome, client.Asked what request verdict session answered outcome := by
  obtain ⟨exchanged, outcome, made, ended, value, state, calls⟩ :=
    client.exists_endsIn what request (Judge.ofReply verdict) () session
  refine ⟨client.watched.ask what request verdict session, outcome, rfl, ended, ?_, ?_, ?_⟩
  all_goals simp only [ask, Action.bind_value, Action.bind_state, made, ← value, ← state, ← calls]
  all_goals rfl

section Starting

variable {client} {session : Session (Watched σ)}
  {greeting announcing : Traced (Session (Watched σ)) (Except PeerError Unit)}
  {described : Traced (Session (Watched σ)) (Except PeerError DetectorInfo)}
  {pinged begun : Traced (Session (Watched σ)) (Except PeerError Unit × Unit)}
  {asked : Traced (Session (Watched σ)) (Except PeerError DetectorInfo × Unit)}

/-- The three questions of a start that is answered, one behind the other. -/
structure Opening (client : Client σ) (session : Session (Watched σ))
    (greeting announcing : Traced (Session (Watched σ)) (Except PeerError Unit))
    (described : Traced (Session (Watched σ)) (Except PeerError DetectorInfo))
    (pinged begun : Traced (Session (Watched σ)) (Except PeerError Unit × Unit))
    (asked : Traced (Session (Watched σ)) (Except PeerError DetectorInfo × Unit)) : Prop where
  ping : client.Asked "PING" (Wire.encodeRequest .ping) judgeAck
    (session.inPhase .handshaking) greeting pinged
  answered : pinged.value.1 = .ok ()
  runBegin : client.Asked "RUN_BEGIN" (Wire.encodeRequest (.runBegin client.outputFile)) judgeAck
    (greeting.state.inPhase .ready) announcing begun
  detectorInfo : client.Asked "DETECTOR_INFO" (Wire.encodeRequest .detectorInfo)
    judgeDetectorInfo (announcing.state.inPhase .awaitingDetectorInfo) described asked

/-- The exchanges of the three questions follow each other. -/
theorem Opening.greeted
    (opening : client.Opening session greeting announcing described pinged begun asked) :
    Greeted client.caller session.unwatched pinged begun asked where
  ping := opening.ping.ended
  answered := opening.answered
  runBegin := by
    rw [← opening.ping.state]
    exact opening.runBegin.ended
  detectorInfo := by
    rw [← opening.runBegin.state]
    exact opening.detectorInfo.ended

/-- The calls of the three questions follow each other. -/
theorem Opening.calls
    (opening : client.Opening session greeting announcing described pinged begun asked) :
    described.state.calls =
      session.calls ++ (pinged.state.calls ++ begun.state.calls ++ asked.state.calls) := by
  calc described.state.calls
    _ = announcing.state.calls ++ asked.state.calls := opening.detectorInfo.calls
    _ = greeting.state.calls ++ begun.state.calls ++ asked.state.calls :=
      congrArg (· ++ asked.state.calls) opening.runBegin.calls
    _ = session.calls ++ pinged.state.calls ++ begun.state.calls ++ asked.state.calls :=
      congrArg (· ++ begun.state.calls ++ asked.state.calls) opening.ping.calls
    _ = _ := by simp only [List.append_assoc]

/-- A start that is answered ends with the description of the detector or without it. -/
theorem Opening.starts
    (opening : client.Opening session greeting announcing described pinged begun asked) :
    ∃ calls, (client.watched.start session).state.calls = session.calls ++ calls ∧
      Starts client.caller session.unwatched (client.watched.start session).value calls
        (client.watched.start session).state.unwatched := by
  obtain ⟨value, state⟩ := client.watched.start_answered opening.ping.asks
    (opening.ping.value.trans opening.answered) opening.runBegin.asks
  refine ⟨pinged.state.calls ++ begun.state.calls ++ asked.state.calls, ?_⟩
  rw [value, state]
  cases result : asked.value.1 with
  | error reason =>
    obtain ⟨failed, left⟩ := client.watched.requestDetector_failed opening.detectorInfo.asks
      (opening.detectorInfo.value.trans result)
    refine ⟨by rw [left]; exact opening.calls, ?_⟩
    have after : (described.state.inPhase .disconnected).unwatched =
        asked.state.unwatched.inPhase .disconnected := by
      rw [← opening.detectorInfo.state]
      rfl
    rw [failed, left, after]
    exact .undescribed opening.greeted result
  | ok info =>
    obtain ⟨given, left⟩ := client.watched.requestDetector_described opening.detectorInfo.asks
      (opening.detectorInfo.value.trans result)
    refine ⟨by rw [left]; exact opening.calls, ?_⟩
    have after : ({ described.state with phase := .ready, detector := some info } :
          Session (Watched σ)).unwatched =
        { asked.state.unwatched with phase := .ready, detector := some info } := by
      rw [← opening.detectorInfo.state]
      rfl
    rw [given, left, after]
    exact .described opening.greeted result

end Starting

/-- A client over a link starts in one of these ways. -/
theorem starts (session : Session (Watched σ)) :
    ∃ calls, (client.watched.start session).state.calls = session.calls ++ calls ∧
      Starts client.caller session.unwatched (client.watched.start session).value calls
        (client.watched.start session).state.unwatched := by
  obtain ⟨greeting, pinged, ping⟩ :=
    client.exists_asked "PING" (Wire.encodeRequest .ping) judgeAck (session.inPhase .handshaking)
  cases answered : pinged.value.1 with
  | error reason =>
    obtain ⟨value, state⟩ :=
      client.watched.start_unanswered ping.asks (ping.value.trans answered)
    refine ⟨pinged.state.calls, by rw [state]; exact ping.calls, ?_⟩
    have left : (greeting.state.inPhase .disconnected).unwatched =
        pinged.state.unwatched.inPhase .disconnected := by
      rw [← ping.state]
      rfl
    rw [value, state, left]
    exact .unanswered ping.ended answered
  | ok =>
    obtain ⟨announcing, begun, runBegin⟩ :=
      client.exists_asked "RUN_BEGIN" (Wire.encodeRequest (.runBegin client.outputFile)) judgeAck
        (greeting.state.inPhase .ready)
    obtain ⟨described, asked, detectorInfo⟩ :=
      client.exists_asked "DETECTOR_INFO" (Wire.encodeRequest .detectorInfo) judgeDetectorInfo
        (announcing.state.inPhase .awaitingDetectorInfo)
    exact Opening.starts ⟨ping, answered, runBegin, detectorInfo⟩

/-- Watched, a client goes about an operation in one of these ways, with the calls
that are watched. -/
def Goes (operation : Operation) (session : Session σ) : Prop :=
  let watched := client.watched.perform operation session.watched
  ∃ begun, Performs client.caller session operation
    ⟨watched.value, begun, watched.state.calls, watched.state.unwatched⟩

theorem goes_start (session : Session σ) : client.Goes .start session := by
  obtain ⟨calls, called, starts⟩ := client.starts session.watched
  have all : (client.watched.perform .start session.watched).state.calls = calls := called
  rw [Goes, all]
  exact ⟨_, .start starts⟩

theorem goes_positions (session : Session σ) : client.Goes .positions session := by
  let watched := client.watched.perform .positions session.watched
  change ∃ begun, Performs client.caller session .positions
    ⟨watched.value, begun, watched.state.calls, watched.state.unwatched⟩
  cases detector : session.detector with
  | some info =>
    have known : client.watched.positions session.watched = _ :=
      client.watched.positions_known detector
    have same : watched = ⟨.located (.ok info.positions), session.watched, []⟩ := by
      simp only [watched, perform, Action.bind_apply, Traced.andThen, known, Action.pure_apply,
        List.append_nil]
    rw [same]
    exact ⟨none, .known detector⟩
  | none =>
    obtain ⟨calls, called, starts⟩ := client.starts session.watched
    have asked : (client.watched.positions session.watched).value = _ ∧ _ = _ :=
      client.watched.positions_unknown detector
    have value : watched.value =
        .located ((client.watched.start session.watched).value.map DetectorInfo.positions) :=
      congrArg Answer.located asked.1
    have state : watched.state = (client.watched.start session.watched).state := asked.2
    rw [value, state, called]
    exact ⟨_, .unknown detector starts⟩

theorem goes_propagate (photons : PhotonBatch) (out : PhotoelectronBatch) (session : Session σ) :
    client.Goes (.propagate photons out) session := by
  let watched := client.watched.perform (.propagate photons out) session.watched
  change ∃ begun, Performs client.caller session (.propagate photons out)
    ⟨watched.value, begun, watched.state.calls, watched.state.unwatched⟩
  by_cases ready : session.phase = .ready
  · obtain ⟨exchanged, outcome, made, shipped, value, state, calls⟩ :=
      client.exists_endsIn "PHOTONDATA" (Wire.encodePhotons photons)
        (judgeSimReply photons.event) out (session.watched.inPhase .awaitingReply)
    subst made
    have given : _ = _ ∧ (client.watched.propagate photons out session.watched).state = _ :=
      client.watched.propagate_of_ready ready
    have answer : watched.value = .propagated (received photons.event outcome.value) := by
      rw [← value]
      exact congrArg Answer.propagated given.1
    have made : watched.state.calls = outcome.state.calls :=
      (congrArg Session.calls given.2).trans calls
    have left : watched.state.unwatched = outcome.state.unwatched.inPhase .ready := by
      rw [← state]
      exact congrArg Session.unwatched given.2
    rw [answer, made, left]
    exact ⟨none, .propagate ready shipped⟩
  · have given : _ = _ ∧ (client.watched.propagate photons out session.watched).state = _ :=
      client.watched.propagate_of_ne_ready ready
    have answer : watched.value = .propagated (.failed, { event := photons.event }) :=
      congrArg Answer.propagated given.1
    have left : watched.state = session.watched := given.2
    rw [answer, left]
    exact ⟨none, .unready ready⟩

theorem goes_stop (session : Session σ) : client.Goes .stop session := by
  let watched := client.watched.perform .stop session.watched
  change ∃ begun, Performs client.caller session .stop
    ⟨watched.value, begun, watched.state.calls, watched.state.unwatched⟩
  by_cases closed : session.phase = .closed
  · have stopped : client.watched.stop session.watched = _ := client.watched.stop_closed closed
    have same : watched = ⟨.stopped, session.watched, []⟩ := by
      simp only [watched, perform, Action.bind_apply, Traced.andThen, stopped, Action.pure_apply,
        List.append_nil]
    rw [same]
    exact ⟨none, .closed closed⟩
  · obtain ⟨answered, outcome, runEnd⟩ :=
      client.exists_asked "RUN_END" (Wire.encodeRequest .runEnd) judgeAck session.watched
    have stopped : (client.watched.stop session.watched).state = _ :=
      client.watched.stop_unclosed closed runEnd.asks
    have called : watched.state.calls = outcome.state.calls :=
      (congrArg Session.calls stopped).trans runEnd.calls
    have left : watched.state.unwatched =
        { outcome.state.unwatched with connected := false, phase := .closed } := by
      rw [← runEnd.state]
      exact congrArg Session.unwatched stopped
    have answer : watched.value = .stopped := rfl
    rw [answer, called, left]
    exact ⟨none, .stop closed runEnd.ended⟩

/-- A client over a link performs each operation in one of these ways. -/
theorem performs (operation : Operation) (session : Session σ) :
    let watched := client.watched.perform operation session.watched
    watched.unwatched = client.perform operation session ∧
      ∃ begun, Performs client.caller session operation
        ⟨watched.value, begun, watched.state.calls, watched.state.unwatched⟩ := by
  refine ⟨client.carried_watched.perform operation session.watched, ?_⟩
  cases operation with
  | start => exact client.goes_start session
  | propagate photons out => exact client.goes_propagate photons out session
  | positions => exact client.goes_positions session
  | stop => exact client.goes_stop session

end Client

end PhotonFerry
