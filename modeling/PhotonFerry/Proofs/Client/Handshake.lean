import PhotonFerry.Proofs.Client.DetectorReplies
import PhotonFerry.Proofs.Client.Lifetime
import PhotonFerry.Proofs.Client.Proceedings
/-!
# The handshake

A start is three exchanges one behind the other: it pings the backend, announces the
run and asks for the detector. The first and the last must be answered; what comes of
the announcement makes no difference. `StartCalls.Conducted` says what the calls of a
start look like at every moment, `StartCalls.Decides` which end they make it come to.
-/

namespace PhotonFerry

/-- Replies that are judged one by one. -/
@[simp] theorem Judge.verdicts_ofReply {α : Type} (verdict : Wire.Message → Verdict α)
    (replies : List Wire.Message) :
    (Judge.ofReply verdict).verdicts replies () = replies.map verdict := by
  induction replies with
  | nil => rfl
  | cons reply rest step => exact congrArg (verdict reply :: ·) step

namespace Client

/-- A reply is accepted as an acknowledgement exactly when it is one. -/
theorem judgeAck_accept_iff {reply : Wire.Message} :
    judgeAck reply = .accept () ↔ Wire.expectAck reply = .ok () := by
  unfold judgeAck
  split <;> simp_all

theorem judgeAck_ne_abort (reply : Wire.Message) (reason : Wire.WireError) :
    judgeAck reply ≠ .abort reason := by
  unfold judgeAck
  split <;> simp

end Client

/-- The request was answered with a value: behind the last time that it was sent came
replies that cannot be read, and then, at the end, one that is read as the value. -/
def Answered {α : Type} (request : Wire.Message) (read : Wire.Message → Except Wire.WireError α)
    (value : α) (calls : List Call) : Prop :=
  ∃ (earlier : List Call) (discarded : List Wire.Message) (reply : Wire.Message),
    calls = earlier ++ .send request (.ok ()) :: discarded.map Call.delivery ++
      [.delivery reply] ∧
    (∀ other ∈ discarded, ∃ reason, read other = .error reason) ∧
    read reply = .ok value

section Questions

variable {σ α : Type} (caller : Caller σ) (verdict : Wire.Message → Verdict α)

/-- The end that its calls make a question come to. -/
inductive Settled (calls : List Call) : Except PeerError α → Prop where
  | accepted {reply value} (heard : reply ∈ repliesOf calls)
      (judged : verdict reply = .accept value) : Settled calls (.ok value)
  /-- A reply was the right one and wrong in itself. -/
  | aborted {reply flaw} (heard : reply ∈ repliesOf calls)
      (judged : verdict reply = .abort flaw) : Settled calls (.error (.malformed flaw))
  | exhausted (lost : losses calls = caller.attempts) :
      Settled calls (.error (.retriesExhausted caller.attempts))

variable {caller verdict} {session : Session σ} {what : String} {request : Wire.Message}
  {outcome : Traced (Session (Watched σ)) (Except PeerError α × Unit)}
  {read : Wire.Message → Except Wire.WireError α}

/-- A question has ended, at any moment, exactly as the calls of that moment say. -/
theorem stage_asking_iff (steps : Nat) (result : Except PeerError α) :
    ((caller.asking what request verdict).watched.run steps (.start ())
        session.watched).value.stage = .ended result ↔
      Settled caller verdict ((caller.asking what request verdict).callsAfter () session steps)
        result := by
  have contract := ((caller.asking what request verdict).accounted_run session () steps).contract
  have accepted : ∀ value, _ ↔ _ ∈ (Judge.ofReply verdict).verdicts _ () := contract.accepted
  have aborted : ∀ flaw, _ ↔ _ ∈ (Judge.ofReply verdict).verdicts _ () := contract.aborted
  have exhausted := contract.exhausted caller.attempts
  simp only [Judge.verdicts_ofReply, List.mem_map] at accepted aborted
  constructor
  · intro ended
    cases result with
    | ok value =>
      obtain ⟨reply, heard, judged⟩ := (accepted value).mp ended
      exact .accepted heard judged
    | error reason =>
      rcases contract.failures reason ended with rfl | ⟨flaw, rfl⟩
      · exact .exhausted (exhausted.mp ended).2
      · obtain ⟨reply, heard, judged⟩ := (aborted flaw).mp ended
        exact .aborted heard judged
  · rintro (⟨heard, judged⟩ | ⟨heard, judged⟩ | lost)
    · exact (accepted _).mpr ⟨_, heard, judged⟩
    · exact (aborted _).mpr ⟨_, heard, judged⟩
    · exact exhausted.mpr ⟨rfl, lost⟩

/-- A question ends as its calls say. -/
theorem asking_value_iff (ended : (caller.asking what request verdict).EndsIn () session outcome)
    (result : Except PeerError α) :
    outcome.value.1 = result ↔ Settled caller verdict outcome.state.calls result := by
  obtain ⟨steps, lost, reached⟩ := ended
  have stage : ((caller.asking what request verdict).watched.run steps (.start ())
      session.watched).value.stage = .ended result ↔ _ := stage_asking_iff steps result
  rw [RetryLoop.callsAfter, reached, Stage.ended.injEq] at stage
  exact stage

/-- What was answered is among the replies. -/
theorem Answered.settled {value : α} {calls : List Call}
    (accepts : ∀ reply value, verdict reply = .accept value ↔ read reply = .ok value)
    (answered : Answered request read value calls) : Settled caller verdict calls (.ok value) := by
  obtain ⟨earlier, discarded, reply, rfl, -, accepted⟩ := answered
  refine .accepted ?_ ((accepts reply value).mpr accepted)
  rw [repliesOf_concat]
  exact List.mem_append_right _ (by simp)

/-- A question is accepted exactly when its request was answered. -/
theorem asking_eq_ok_iff
    (accepts : ∀ reply value, verdict reply = .accept value ↔ read reply = .ok value)
    (ended : (caller.asking what request verdict).EndsIn () session outcome) (value : α) :
    outcome.value.1 = .ok value ↔ Answered request read value outcome.state.calls := by
  constructor
  · intro accepted
    -- the calls alone do not show which replies were discarded; the account does
    obtain ⟨lost, accounted⟩ := RetryLoop.Settles.accounted ended
    obtain ⟨earlier, discarded, reply, calls, -, refused, memory, judged⟩ :=
      accounted.accepted (congrArg Stage.ended accepted)
    refine ⟨earlier, discarded, reply, calls, fun other member => ?_, ?_⟩
    · obtain ⟨_, reason, rejected⟩ := refused other member
      cases found : read other with
      | error flaw => exact ⟨flaw, rfl⟩
      | ok value =>
        have agreed : verdict other = .accept value := (accepts other value).mpr found
        exact absurd (agreed.symm.trans rejected) (by simp)
    · exact (accepts reply value).mp (congrArg Prod.fst judged)
  · intro answered
    exact (asking_value_iff ended _).mpr (answered.settled accepts)

/-- A question for an acknowledgement fails for want of attempts only. -/
theorem asking_ack_failed
    {acknowledged : Traced (Session (Watched σ)) (Except PeerError Unit × Unit)}
    (ended : (caller.asking what request Client.judgeAck).EndsIn () session acknowledged)
    {reason : PeerError} (failed : acknowledged.value.1 = .error reason) :
    losses acknowledged.state.calls = caller.attempts ∧
      reason = .retriesExhausted caller.attempts := by
  cases (asking_value_iff ended _).mp failed with
  | aborted heard judged => exact absurd judged (Client.judgeAck_ne_abort _ _)
  | exhausted lost => exact ⟨lost, rfl⟩

end Questions

section Start

variable {σ : Type} (caller : Caller σ)

/-- What the calls of a start look like at every moment: one request after the other,
each at most as often as there are attempts. -/
structure StartCalls.Conducted (held : Bool) (calls : StartCalls) : Prop where
  inTurn : calls.InTurn caller held
  ping : Repeats caller.attempts (Wire.encodeRequest .ping) calls.ping
  runBegin : Repeats caller.attempts (Wire.encodeRequest (.runBegin caller.outputFile))
    calls.runBegin
  detectorInfo : Repeats caller.attempts (Wire.encodeRequest .detectorInfo) calls.detectorInfo
  /-- Nothing follows before a ping was acknowledged. -/
  greeted : calls.runBegin ++ calls.detectorInfo ≠ [] →
    Answered (Wire.encodeRequest .ping) Wire.expectAck () calls.ping
  /-- The detector is asked for once the announcement of the run has ended, in whatever
  way. -/
  announced : calls.detectorInfo ≠ [] →
    Answered (Wire.encodeRequest (.runBegin caller.outputFile)) Wire.expectAck ()
        calls.runBegin ∨
      losses calls.runBegin = caller.attempts

/-- The end that its calls make a start come to; those of the announcement have no say. -/
inductive StartCalls.Decides (calls : StartCalls) : Except StartError DetectorInfo → Prop where
  /-- A ping was acknowledged and the detector described. -/
  | described {info}
      (greeted : Answered (Wire.encodeRequest .ping) Wire.expectAck () calls.ping)
      (described : Answered (Wire.encodeRequest .detectorInfo) Wire.decodeDetectorInfo info
        calls.detectorInfo) :
      Decides calls (.ok info)
  /-- All pings were lost. -/
  | unanswered (lost : losses calls.ping = caller.attempts) :
      Decides calls (.error (.handshake (.retriesExhausted caller.attempts)))
  /-- All questions for the detector were lost. -/
  | undescribed (lost : losses calls.detectorInfo = caller.attempts) :
      Decides calls (.error (.detectorInfo (.retriesExhausted caller.attempts)))
  /-- A description of the detector was wrong in itself. -/
  | malformed {reply flaw} (heard : reply ∈ repliesOf calls.detectorInfo)
      (judged : Client.judgeDetectorInfo reply = .abort flaw) :
      Decides calls (.error (.detectorInfo (.malformed flaw)))

/-- What a start that ended leaves. -/
structure StartCalls.Concludes (before : Session σ) (result : Except StartError DetectorInfo)
    (after : Session σ) (calls : StartCalls) : Prop where
  /-- The calls decide for this end and no other. -/
  decides : ∀ other, calls.Decides caller other ↔ other = result
  ready : ∀ info, result = .ok info → after.phase = .ready ∧ after.detector = some info
  /-- A start that fails leaves the detector that was known. -/
  failed : ∀ reason, result = .error reason →
    after.phase = .disconnected ∧ after.detector = before.detector

variable {caller} {session : Session σ}

/-- A ping succeeds exactly when it was acknowledged. -/
theorem ping_eq_ok_iff {pinged : Traced (Session (Watched σ)) (Except PeerError Unit × Unit)}
    {before : Session σ} (ping : caller.ping.EndsIn () before pinged) :
    pinged.value.1 = .ok () ↔
      Answered (Wire.encodeRequest .ping) Wire.expectAck () pinged.state.calls :=
  asking_eq_ok_iff (fun _ _ => Client.judgeAck_accept_iff) ping ()

/-- A ping that succeeded has not used up the attempts. -/
theorem losses_ne_of_ping {pinged : Traced (Session (Watched σ)) (Except PeerError Unit × Unit)}
    {before : Session σ} (ping : caller.ping.EndsIn () before pinged)
    (answered : pinged.value.1 = .ok ()) : losses pinged.state.calls ≠ caller.attempts := by
  intro lost
  have exhausted := (asking_value_iff ping _).mpr (.exhausted lost)
  exact nomatch answered.symm.trans exhausted

/-- An announcement of the run ends with an acknowledgement or for want of attempts. -/
theorem runBegin_ended {begun : Traced (Session (Watched σ)) (Except PeerError Unit × Unit)}
    {before : Session σ} (runBegin : caller.runBegin.EndsIn () before begun) :
    Answered (Wire.encodeRequest (.runBegin caller.outputFile)) Wire.expectAck ()
        begun.state.calls ∨
      losses begun.state.calls = caller.attempts := by
  cases ended : begun.value.1 with
  | ok =>
    exact .inl ((asking_eq_ok_iff (fun _ _ => Client.judgeAck_accept_iff) runBegin ()).mp ended)
  | error reason => exact .inr (asking_ack_failed runBegin ended).1

/-- At every moment a start is conducted so. -/
theorem Starting.conducted {calls : StartCalls} (starting : Starting caller session calls) :
    calls.Conducted caller session.connected := by
  have inTurn := starting.inTurn
  refine {
    inTurn
    ping := inTurn.ping.repeats
    runBegin := inTurn.runBegin.repeats
    detectorInfo := inTurn.detectorInfo.repeats
    greeted := fun followed => ?greeted
    announced := fun followed => ?announced }
  case greeted =>
    cases starting with
    | ping steps => exact absurd rfl followed
    | runBegin ping answered steps => exact (ping_eq_ok_iff ping).mp answered
    | detectorInfo ping answered runBegin steps => exact (ping_eq_ok_iff ping).mp answered
  case announced =>
    cases starting with
    | ping steps | runBegin ping answered steps => exact absurd rfl followed
    | detectorInfo ping answered runBegin steps => exact runBegin_ended runBegin

section Decisions

variable {calls : StartCalls} {result : Except StartError DetectorInfo}

/-- As long as the detector was not asked for, only lost pings decide. -/
theorem StartCalls.Decides.of_unasked (decides : calls.Decides caller result)
    (unasked : calls.detectorInfo = []) : losses calls.ping = caller.attempts ∧
      result = .error (.handshake (.retriesExhausted caller.attempts)) := by
  cases decides with
  | described greeted described =>
    obtain ⟨earlier, discarded, reply, made, -⟩ := described
    simp [unasked] at made
  | unanswered lost => exact ⟨lost, rfl⟩
  | undescribed lost =>
    have positive : 0 < caller.attempts := caller.detectorInfo.attempts_pos
    rw [unasked] at lost
    exact absurd lost (Nat.ne_of_lt positive)
  | malformed heard judged =>
    rw [unasked] at heard
    exact nomatch heard

/-- Once a ping was acknowledged, the question for the detector decides. -/
theorem StartCalls.Decides.settled (decides : calls.Decides caller result)
    (kept : losses calls.ping ≠ caller.attempts) :
    ∃ answer, Settled caller Client.judgeDetectorInfo calls.detectorInfo answer ∧
      result = answer.mapError .detectorInfo := by
  cases decides with
  | described greeted described =>
    exact ⟨_, described.settled fun _ _ => Client.judgeDetectorInfo_accept_iff, rfl⟩
  | unanswered lost => exact absurd lost kept
  | undescribed lost => exact ⟨_, .exhausted lost, rfl⟩
  | malformed heard judged => exact ⟨_, .aborted heard judged, rfl⟩

variable {pinged begun : Traced (Session (Watched σ)) (Except PeerError Unit × Unit)}
  {asked : Traced (Session (Watched σ)) (Except PeerError DetectorInfo × Unit)}

/-- A start whose ping failed has its end from it. -/
theorem decides_iff_of_ping {before : Session σ} {reason : PeerError}
    (ping : caller.ping.EndsIn () before pinged) (failed : pinged.value.1 = .error reason)
    (other : Except StartError DetectorInfo) :
    StartCalls.Decides caller { ping := pinged.state.calls } other ↔
      other = .error (.handshake reason) := by
  obtain ⟨lost, rfl⟩ := asking_ack_failed ping failed
  constructor
  · exact fun decides => (decides.of_unasked rfl).2
  · rintro rfl
    exact .unanswered lost

/-- A start whose exchanges have all ended has its end from the last. -/
theorem Greeted.decides_iff (greeted : Greeted caller session pinged begun asked)
    (other : Except StartError DetectorInfo) :
    StartCalls.Decides caller ⟨pinged.state.calls, begun.state.calls, asked.state.calls⟩ other ↔
      other = asked.value.1.mapError .detectorInfo := by
  constructor
  · intro decides
    obtain ⟨answer, settled, rfl⟩ :=
      decides.settled (losses_ne_of_ping greeted.ping greeted.answered)
    rw [(asking_value_iff greeted.detectorInfo answer).mpr settled]
  · rintro rfl
    cases answered : asked.value.1 with
    | ok info =>
      exact .described ((ping_eq_ok_iff greeted.ping).mp greeted.answered)
        ((asking_eq_ok_iff (fun _ _ => Client.judgeDetectorInfo_accept_iff) greeted.detectorInfo
          info).mp answered)
    | error reason =>
      cases (asking_value_iff greeted.detectorInfo _).mp answered with
      | aborted heard judged => exact .malformed heard judged
      | exhausted lost => exact .undescribed lost

/-- A start whose exchanges have all ended comes to the end of the last. -/
theorem Greeted.exists_starts (greeted : Greeted caller session pinged begun asked) :
    ∃ after, Starts caller session (asked.value.1.mapError .detectorInfo)
      (pinged.state.calls ++ begun.state.calls ++ asked.state.calls) after := by
  cases answered : asked.value.1 with
  | ok info => exact ⟨_, .described greeted answered⟩
  | error reason => exact ⟨_, .undescribed greeted answered⟩

/-- A start has ended as soon as its calls decide its end. -/
theorem Starting.exists_starts (starting : Starting caller session calls)
    (decides : calls.Decides caller result) :
    ∃ after, Starts caller session result calls.all after := by
  cases starting with
  | ping steps =>
    obtain ⟨lost, rfl⟩ := decides.of_unasked rfl
    have ping := RetryLoop.endsIn_outcomeAfter ((stage_asking_iff steps _).mpr (.exhausted lost))
    simp only [StartCalls.all, List.append_nil]
    exact ⟨_, .unanswered ping rfl⟩
  | runBegin ping answered steps =>
    exact absurd (decides.of_unasked rfl).1 (losses_ne_of_ping ping answered)
  | detectorInfo ping answered runBegin steps =>
    obtain ⟨answer, settled, rfl⟩ := decides.settled (losses_ne_of_ping ping answered)
    have asked := RetryLoop.endsIn_outcomeAfter ((stage_asking_iff steps _).mpr settled)
    exact Greeted.exists_starts ⟨ping, answered, runBegin, asked⟩

/-- The calls of a start that ended decide its end. -/
theorem Starts.concludes {calls : List Call} {after : Session σ}
    (starts : Starts caller session result calls after) :
    ∃ parts, Starting caller session parts ∧ parts.all = calls ∧
      parts.Concludes caller session result after := by
  have detector := starts.effect.detector
  cases starts with
  | unanswered ping failed =>
    refine ⟨_, starting_of_ping ping, by simp [StartCalls.all], ?_⟩
    exact {
      decides := decides_iff_of_ping ping failed
      ready := by simp
      failed := fun _ _ => ⟨rfl, detector⟩ }
  | undescribed greeted failed =>
    refine ⟨_, greeted.starting, rfl, ?_⟩
    have decides := greeted.decides_iff
    rw [failed] at decides
    exact {
      decides
      ready := by simp
      failed := fun _ _ => ⟨rfl, detector⟩ }
  | @described _ _ _ info greeted described =>
    refine ⟨_, greeted.starting, rfl, ?_⟩
    have decides := greeted.decides_iff
    rw [described] at decides
    refine {
      decides
      ready := fun other succeeded => ?ready
      failed := by simp }
    case ready =>
      obtain rfl : info = other := Except.ok.inj succeeded
      exact ⟨rfl, rfl⟩

end Decisions

variable (caller session)

/-- How a client shakes hands, over any transport and from any state. At every moment of a
start the pings come first, then, behind a ping that was acknowledged, the announcements
of the run, and then the questions for the detector, each at most as often as there are
attempts, and nothing else. As soon as these calls decide for an end, the start has come
to it, and every start that ends comes to the one end that its calls decide for; it
leaves the client ready with the detector that was described, or disconnected with the
detector that was known before. A client over a link starts in this way. -/
theorem start_shakes_hands :
    (∀ calls, Starting caller session calls → calls.Conducted caller session.connected ∧
      ∀ result, calls.Decides caller result →
        ∃ after, Starts caller session result calls.all after) ∧
    (∀ result calls after, Starts caller session result calls after →
      ∃ parts, Starting caller session parts ∧ parts.all = calls ∧
        parts.Concludes caller session result after) ∧
    ∀ client : Client σ, client.caller = caller →
      let watched := client.watched.start session.watched
      watched.unwatched = client.start session ∧
        Starts caller session watched.value watched.state.calls watched.state.unwatched := by
  refine ⟨fun _ starting => ⟨starting.conducted, fun _ => starting.exists_starts⟩,
    fun _ _ _ starts => starts.concludes, ?_⟩
  rintro client rfl watched
  obtain ⟨calls, made, starts⟩ := client.starts session.watched
  have all : watched.state.calls = calls := made
  exact ⟨client.carried_watched.start session.watched, all ▸ starts⟩

end Start

end PhotonFerry
