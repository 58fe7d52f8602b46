import PhotonFerry.Proofs.Client.Operations
/-!
# The lifetime of a client

A client is made for a world that it does not know, and changes by its operations
only. Between two of them it is disconnected, ready or closed, and everything it
tells about itself can be read off what its operations were, how its starts ended,
and what calls were made.
-/

namespace PhotonFerry

/-- One operation in the life of a client. -/
structure Visit where
  operation : Operation
  /-- How the start ended that the operation made, if it made one. -/
  begun : Option (Except StartError DetectorInfo)
  calls : List Call

/-- The detector that a start brought, if there was a start and it succeeded. -/
def described? : Option (Except StartError DetectorInfo) → Option DetectorInfo
  | some (.ok info) => some info
  | _ => none

/-- The clients that come about, with all that was done with them. The world outside
may change at any time. -/
inductive Lives {σ : Type} (caller : Caller σ) : List Visit → Session σ → Prop where
  | fresh (world : σ) : Lives caller [] { world }
  | outside {visits session} (world : σ) (earlier : Lives caller visits session) :
      Lives caller visits { session with world }
  | perform {visits session operation performance} (earlier : Lives caller visits session)
      (performed : Performs caller session operation performance) :
      Lives caller (visits ++ [⟨operation, performance.begun, performance.calls⟩])
        performance.after

/-- The latest start succeeded, and no stop came after it. -/
def UnderWay (visits : List Visit) : Prop :=
  ∃ earlier visit later, visits = earlier ++ visit :: later ∧
    (∃ info, visit.begun = some (.ok info)) ∧
    ∀ other ∈ later, other.begun = none ∧ other.operation ≠ .stop

/-- The detectors that starts brought, in the order in which they were brought. -/
def detectorsOf (visits : List Visit) : List DetectorInfo :=
  visits.filterMap fun visit => described? visit.begun

/-- All calls of some operations. -/
def callsOf (visits : List Visit) : List Call :=
  visits.flatMap Visit.calls

/-- The last operation was a stop. -/
def EndsStopped (visits : List Visit) : Prop :=
  ∃ earlier last, visits = earlier ++ [last] ∧ last.operation = .stop

/-- Where a client stands after an operation. -/
def phaseAfter (before : Phase) : Operation → Option (Except StartError DetectorInfo) → Phase
  | _, some (.ok _) => .ready
  | _, some (.error _) => .disconnected
  | .stop, none => .closed
  | _, none => before

/-- Nothing but a start or a stop changes where a client stands. -/
theorem phaseAfter_none {before : Phase} {operation : Operation} (calm : operation ≠ .stop) :
    phaseAfter before operation none = before := by
  cases operation with
  | stop => exact absurd rfl calm
  | start => rfl
  | propagate photons out => rfl
  | positions => rfl

section Effects

variable {σ : Type} {caller : Caller σ} {session : Session σ}

/-- What a start does. -/
structure StartEffect (session : Session σ) (result : Except StartError DetectorInfo)
    (calls : List Call) (after : Session σ) : Prop where
  phase : after.phase = phaseAfter session.phase .start (some result)
  detector : after.detector = (described? (some result)).or session.detector
  counts : ∀ opened, session.Counts opened → after.Counts (opened + connections calls)
  /-- No photons are sent. -/
  sends : ∀ request answer, .send request answer ∈ calls →
    Wire.peekTag request ≠ .ok .photonData

/-- An exchange for another request sends no photons. -/
theorem RetryLoop.EndsIn.sends_no_photons {τ α : Type} {loop : RetryLoop σ τ α} {memory : τ}
    {outcome : Traced (Session (Watched σ)) (Except PeerError α × τ)}
    (ended : loop.EndsIn memory session outcome) (asked : Wire.Request)
    (asks : loop.request = Wire.encodeRequest asked) (other : asked.tag ≠ .photonData)
    {request : Wire.Message} {answer : Except PeerError Unit}
    (sent : .send request answer ∈ outcome.state.calls) :
    Wire.peekTag request ≠ .ok .photonData := by
  rw [ended.sends sent, asks, Wire.peekTag_encodeRequest]
  simpa using other

section Greeted

variable {pinged begun : Traced (Session (Watched σ)) (Except PeerError Unit × Unit)}
  {asked : Traced (Session (Watched σ)) (Except PeerError DetectorInfo × Unit)}

/-- The connections of a start are counted one exchange after the other. -/
theorem Greeted.counts (greeted : Greeted caller session pinged begun asked) {opened : Nat}
    (counted : session.Counts opened) : asked.state.unwatched.Counts
      (opened + connections (pinged.state.calls ++ begun.state.calls ++ asked.state.calls)) := by
  have all := greeted.detectorInfo.counts (greeted.runBegin.counts (greeted.ping.counts counted))
  rwa [connections_append, connections_append, ← Nat.add_assoc, ← Nat.add_assoc]

/-- No exchange of a start sends photons. -/
theorem Greeted.sends (greeted : Greeted caller session pinged begun asked)
    {request : Wire.Message} {answer : Except PeerError Unit}
    (sent : .send request answer ∈ pinged.state.calls ++ begun.state.calls ++ asked.state.calls) :
    Wire.peekTag request ≠ .ok .photonData := by
  rcases List.mem_append.mp sent with early | last
  · rcases List.mem_append.mp early with first | second
    · exact greeted.ping.sends_no_photons .ping rfl (by decide) first
    · exact greeted.runBegin.sends_no_photons (.runBegin caller.outputFile) rfl
        (by simp [Wire.Request.tag]) second
  · exact greeted.detectorInfo.sends_no_photons .detectorInfo rfl (by decide) last

end Greeted

/-- Whichever way a start goes, this is what it does. -/
theorem Starts.effect {result : Except StartError DetectorInfo} {calls : List Call}
    {after : Session σ} (starts : Starts caller session result calls after) :
    StartEffect session result calls after := by
  cases starts with
  | unanswered ping failed =>
    exact {
      phase := rfl
      detector := ping.frame.detector
      counts := fun _ counted => ping.counts counted
      sends := fun _ _ sent => ping.sends_no_photons .ping rfl (by decide) sent }
  | undescribed greeted failed =>
    exact {
      phase := rfl
      detector := greeted.detectorInfo.frame.detector.trans
        (greeted.runBegin.frame.detector.trans greeted.ping.frame.detector)
      counts := fun _ counted => greeted.counts counted
      sends := fun _ _ sent => greeted.sends sent }
  | described greeted described =>
    exact {
      phase := rfl
      detector := rfl
      counts := fun _ counted => greeted.counts counted
      sends := fun _ _ sent => greeted.sends sent }

/-- What an operation does. -/
structure Effect (session : Session σ) (operation : Operation) (performance : Performance σ) :
    Prop where
  phase : performance.after.phase = phaseAfter session.phase operation performance.begun
  detector : performance.after.detector = (described? performance.begun).or session.detector
  counts : ∀ opened, session.Counts opened →
    performance.after.Counts (opened + connections performance.calls)
  /-- A client that comes to be closed has given up its connection. -/
  closed : performance.after.phase = .closed →
    performance.after.connected = false ∨ performance.after = session
  /-- Photons are sent only for a propagation of a client that is ready. -/
  photons : ∀ request answer, .send request answer ∈ performance.calls →
    Wire.peekTag request = .ok .photonData → session.phase = .ready ∧
      ∃ photons out, operation = .propagate photons out ∧ request = Wire.encodePhotons photons
  stopped : operation = .stop → performance.after.phase = .closed
  /-- Stopping a closed client does nothing. -/
  stoppedAgain : operation = .stop → session.phase = .closed →
    performance.calls = [] ∧ performance.after = session
  /-- The positions that are given are those of the detector that is known. -/
  positions : ∀ points, performance.answer = .located (.ok points) →
    ∃ info, performance.after.detector = some info ∧ points = info.positions

theorem StartEffect.effect {result : Except StartError DetectorInfo} {calls : List Call}
    {after : Session σ} (started : StartEffect session result calls after) (operation : Operation)
    (starting : operation ≠ .stop) {answer : Answer}
    (positions : ∀ points, answer = .located (.ok points) →
      ∃ info, result = .ok info ∧ points = info.positions) :
    Effect session operation ⟨answer, some result, calls, after⟩ where
  phase := by
    rw [started.phase]
    cases result <;> rfl
  detector := started.detector
  counts := started.counts
  closed closed := by
    rw [started.phase] at closed
    cases result <;> exact nomatch closed
  photons request answer sent tagged := absurd tagged (started.sends request answer sent)
  stopped stop := absurd stop starting
  stoppedAgain stop := absurd stop starting
  positions points located := by
    obtain ⟨info, rfl, rfl⟩ := positions points located
    exact ⟨info, started.detector, rfl⟩

/-- An operation that makes no exchange does nothing. -/
theorem effect_idle {operation : Operation} {answer : Answer}
    (phase : session.phase = phaseAfter session.phase operation none)
    (positions : ∀ points, answer = .located (.ok points) →
      ∃ info, session.detector = some info ∧ points = info.positions) :
    Effect session operation ⟨answer, none, [], session⟩ where
  phase := phase
  detector := rfl
  counts _ counted := counted
  closed _ := .inr rfl
  photons _ _ sent := nomatch sent
  stopped stop := by rw [phase, stop, phaseAfter]
  stoppedAgain _ _ := ⟨rfl, rfl⟩
  positions := positions

/-- Whichever way an operation goes, this is what it does. -/
theorem Performs.effect {operation : Operation} {performance : Performance σ}
    (performed : Performs caller session operation performance) :
    Effect session operation performance := by
  cases performed with
  | start starts =>
    exact starts.effect.effect .start (by simp) fun _ located => nomatch located
  | unknown unknown starts =>
    rename_i result _ _
    refine starts.effect.effect .positions (by simp) fun points located => ?_
    cases result with
    | error reason => simp [Except.map] at located
    | ok info => exact ⟨info, rfl, by simpa [Except.map] using located.symm⟩
  | known known =>
    exact effect_idle rfl fun points located => ⟨_, known, by simpa using located.symm⟩
  | unready unready => exact effect_idle rfl fun _ located => nomatch located
  | closed closed => exact effect_idle closed fun _ located => nomatch located
  | propagate ready shipped =>
    exact {
      phase := ready.symm
      detector := shipped.frame.detector
      counts := fun _ counted => shipped.counts counted
      closed := fun closed => nomatch closed
      photons := fun _ _ sent _ => ⟨ready, _, _, rfl, shipped.sends sent⟩
      stopped := fun stop => nomatch stop
      stoppedAgain := fun stop => nomatch stop
      positions := fun _ located => nomatch located }
  | stop unclosed runEnd =>
    exact {
      phase := rfl
      detector := runEnd.frame.detector
      counts := fun _ counted => runEnd.counts counted
      closed := fun _ => .inl rfl
      photons := fun _ _ sent tagged =>
        absurd tagged (runEnd.sends_no_photons .runEnd rfl (by decide) sent)
      stopped := fun _ => rfl
      stoppedAgain := fun _ closed => absurd closed unclosed
      positions := fun _ located => nomatch located }

end Effects

section History

variable {visits : List Visit} {visit : Visit}

/-- One more operation keeps a start under way, or is itself the start. -/
theorem underWay_concat : UnderWay (visits ++ [visit]) ↔
    (∃ info, visit.begun = some (.ok info)) ∨
      UnderWay visits ∧ visit.begun = none ∧ visit.operation ≠ .stop := by
  constructor
  · rintro ⟨earlier, start, later, split, begun, quiet⟩
    rcases split_concat split with ⟨-, rfl, -⟩ | ⟨rest, rfl, rfl⟩
    · exact .inl begun
    · simp only [List.mem_append, List.mem_singleton] at quiet
      exact .inr ⟨⟨earlier, start, rest, rfl, begun, fun other member => quiet other (.inl member)⟩,
        quiet visit (.inr rfl)⟩
  · rintro (begun | ⟨⟨earlier, start, later, rfl, begun, quiet⟩, calm⟩)
    · exact ⟨visits, visit, [], rfl, begun, fun _ member => nomatch member⟩
    · refine ⟨earlier, start, later ++ [visit], by simp, begun, fun other member => ?_⟩
      rcases List.mem_append.mp member with before | last
      · exact quiet other before
      · rwa [List.mem_singleton.mp last]

theorem not_underWay_nil : ¬ UnderWay [] := by
  rintro ⟨earlier, visit, later, split, -⟩
  simp at split

theorem endsStopped_concat : EndsStopped (visits ++ [visit]) ↔ visit.operation = .stop := by
  constructor
  · rintro ⟨earlier, last, split, stop⟩
    obtain ⟨-, same⟩ := List.append_inj' split rfl
    obtain rfl : visit = last := by simpa using same
    exact stop
  · exact fun stop => ⟨visits, visit, rfl, stop⟩

@[simp] theorem detectorsOf_concat :
    detectorsOf (visits ++ [visit]) = detectorsOf visits ++ (described? visit.begun).toList := by
  rw [detectorsOf, List.filterMap_append, detectorsOf]
  cases found : described? visit.begun <;> simp [found]

@[simp] theorem callsOf_concat : callsOf (visits ++ [visit]) = callsOf visits ++ visit.calls := by
  simp [callsOf]

end History

section Steadiness

variable {σ : Type} {caller : Caller σ} {visits : List Visit} {session : Session σ}

/-- Where a client stands between two operations. -/
structure Steady (visits : List Visit) (session : Session σ) : Prop where
  phase : session.phase = .disconnected ∨ session.phase = .ready ∨ session.phase = .closed
  ready : session.phase = .ready ↔ UnderWay visits
  closed : session.phase = .closed → session.connected = false
  /-- The detector is that of the latest start that succeeded. -/
  detector : session.detector = (detectorsOf visits).getLast?
  /-- Of all connections that were opened the first is no reconnection. -/
  reconnects : session.reconnects = connections (callsOf visits) - 1
  everConnected : session.everConnected = decide (0 < connections (callsOf visits))
  /-- A client that was just stopped is closed. -/
  stopped : EndsStopped visits → session.phase = .closed

theorem steady_fresh (world : σ) : Steady [] ({ world } : Session σ) where
  phase := .inl rfl
  ready := iff_of_false (by simp) not_underWay_nil
  closed closed := nomatch closed
  detector := rfl
  reconnects := rfl
  everConnected := rfl
  stopped := by
    rintro ⟨earlier, last, split, -⟩
    simp at split

/-- Every operation leaves a client steady. -/
theorem Steady.perform {operation : Operation} {performance : Performance σ}
    (steady : Steady visits session) (effect : Effect session operation performance) :
    Steady (visits ++ [⟨operation, performance.begun, performance.calls⟩]) performance.after := by
  obtain ⟨answer, begun, calls, after⟩ := performance
  have counted := effect.counts _ ⟨steady.everConnected, steady.reconnects⟩
  have phase := effect.phase
  simp only at phase counted
  refine {
    phase := ?phase
    ready := ?ready
    closed := ?closed
    detector := ?detector
    reconnects := by rw [callsOf_concat, connections_append]; exact counted.2
    everConnected := by rw [callsOf_concat, connections_append]; exact counted.1
    stopped := ?stopped }
  case phase =>
    rcases begun with _ | (reason | info)
    · by_cases stop : operation = .stop
      · subst stop
        exact .inr (.inr phase)
      · rw [phase, phaseAfter_none stop]
        exact steady.phase
    · exact .inl phase
    · exact .inr (.inl phase)
  case ready =>
    rw [underWay_concat, ← steady.ready, phase]
    rcases begun with _ | (reason | info)
    · by_cases stop : operation = .stop
      · subst stop
        simp [phaseAfter]
      · simp [phaseAfter_none stop, stop]
    · simp [phaseAfter]
    · simp [phaseAfter]
  case closed =>
    intro closed
    rcases effect.closed closed with left | same
    · exact left
    · simp only at same
      subst same
      exact steady.closed closed
  case detector =>
    rw [detectorsOf_concat, effect.detector, steady.detector]
    rcases begun with _ | (reason | info) <;> simp [described?]
  case stopped =>
    rw [endsStopped_concat]
    exact effect.stopped

/-- A client is steady throughout its life. -/
theorem Lives.steady (lives : Lives caller visits session) : Steady visits session := by
  induction lives with
  | fresh world => exact steady_fresh world
  | outside world earlier step => exact { step with }
  | perform earlier performed step => exact step.perform performed.effect

/-- The invariant of a client over any transport. Whatever was done with it and
however the transport behaved, between two operations it is steady: disconnected,
ready or closed; ready exactly when the latest start succeeded and no stop came
after it; without a connection when it is closed; with the detector of the latest
start that succeeded; with one reconnection for each connection but the first.
The next operation sends photons only if it propagates them and the client is
ready, gives no positions but those of the detector, and makes no call at all if it
is a stop and so was the last. A client over a link performs its operations so. -/
theorem lives_steadily (caller : Caller σ) :
    (∀ visits session, Lives caller visits session →
      Steady visits session ∧
      ∀ operation performance, Performs caller session operation performance →
        (∀ request answer, .send request answer ∈ performance.calls →
          Wire.peekTag request = .ok .photonData → session.phase = .ready ∧
            ∃ photons out, operation = .propagate photons out ∧
              request = Wire.encodePhotons photons) ∧
        (∀ points, performance.answer = .located (.ok points) →
          ∃ info, performance.after.detector = some info ∧ points = info.positions) ∧
        (EndsStopped visits → operation = .stop →
          performance.calls = [] ∧ performance.after = session)) ∧
    ∀ client : Client σ, client.caller = caller → ∀ operation session,
      let watched := client.watched.perform operation session.watched
      watched.unwatched = client.perform operation session ∧
        ∃ begun, Performs caller session operation
          ⟨watched.value, begun, watched.state.calls, watched.state.unwatched⟩ := by
  constructor
  · intro visits session lives
    refine ⟨lives.steady, fun operation performance performed => ?_⟩
    have effect := performed.effect
    refine ⟨effect.photons, effect.positions, fun stopped stop => ?_⟩
    exact effect.stoppedAgain stop (lives.steady.stopped stopped)
  · rintro client rfl operation session
    exact client.performs operation session

end Steadiness

end PhotonFerry
