import PhotonFerry.Proofs.Client.Account
import PhotonFerry.Proofs.Client.Termination
/-!
# The contract of the retry loop

What the calls of an exchange say about its attempts, its connection and its
result holds after every number of steps over every transport, so also while an
exchange never ends. It does end when on each connection only so many messages
arrive, and an exchange over a link is one that has ended.
-/

namespace PhotonFerry

/-- The result that a verdict makes. -/
def Verdict.result? {α : Type} : Verdict α → Option (Except PeerError α)
  | .accept value => some (.ok value)
  | .abort reason => some (.error (.malformed reason))
  | .reject _ => none

/-- Different verdicts make different results. -/
theorem Verdict.eq_iff_of_result? {α : Type} {first second : Verdict α}
    {firstResult secondResult : Except PeerError α} (firstMade : first.result? = some firstResult)
    (secondMade : second.result? = some secondResult) :
    first = second ↔ firstResult = secondResult := by
  cases first <;> cases second <;> simp only [result?, reduceCtorEq, Option.some.injEq] at * <;>
    simp [← firstMade, ← secondMade]

/-- No verdict uses up the attempts. -/
theorem Verdict.result?_ne_retriesExhausted {α : Type} (verdict : Verdict α) (count : Nat) :
    verdict.result? ≠ some (.error (.retriesExhausted count)) := by
  cases verdict <;> simp [result?]

namespace RetryLoop

variable {σ τ α : Type} (loop : RetryLoop σ τ α) (before : Session σ) (initial : τ)

/-- What holds between the calls of an exchange, where it stands and the session. -/
structure Contract (calls : List Call) (standing : Standing τ α) (after : Session σ) : Prop where
  /-- Each call was permitted when it was made, while attempts were left. -/
  orderly : Orderly loop.attempts loop.request before.connected calls
  /-- Each call that came to nothing cost one attempt, and nothing else did. -/
  lost : standing.lost = losses calls
  /-- No more attempts are begun than there are. -/
  begun : attemptsBegun calls ≤ loop.attempts
  /-- A connection is held until a call comes to nothing. -/
  connected : after.connected = heldAfter before.connected calls
  /-- The requests that were written are counted. -/
  sends : after.sends = before.sends + requestsSent calls
  /-- The exchange has a value exactly when the judge accepted a reply with it. -/
  accepted : ∀ value, standing.stage = .ended (.ok value) ↔
    .accept value ∈ loop.judge.verdicts (repliesOf calls) initial
  /-- A reply is found malformed exactly when the judge aborted. -/
  aborted : ∀ reason, standing.stage = .ended (.error (.malformed reason)) ↔
    .abort reason ∈ loop.judge.verdicts (repliesOf calls) initial
  /-- The attempts are used up exactly when all of them were lost. -/
  exhausted : ∀ count, standing.stage = .ended (.error (.retriesExhausted count)) ↔
    count = loop.attempts ∧ losses calls = loop.attempts
  /-- No connection is held when all attempts were lost. -/
  dropped : losses calls = loop.attempts → after.connected = false
  /-- An exchange fails in no other way. -/
  failures : ∀ reason, standing.stage = .ended (.error reason) →
    reason = .retriesExhausted loop.attempts ∨ ∃ flaw, reason = .malformed flaw

variable {loop before initial}

/-- A verdict that makes a result is none of those that were discarded. -/
theorem Discarded.notMem {calls : List Call} (discarded : loop.Discarded initial calls)
    {verdict : Verdict α} {result : Except PeerError α} (final : verdict.result? = some result) :
    verdict ∉ loop.judge.verdicts (repliesOf calls) initial := by
  intro member
  obtain ⟨reason, rfl⟩ := discarded verdict member
  simp [Verdict.result?] at final

/-- Behind discarded replies the last verdict alone can make a result. -/
theorem Discarded.mem_concat_iff {calls : List Call} {reply : Wire.Message}
    (discarded : loop.Discarded initial calls) {verdict last : Verdict α}
    {result : Except PeerError α} (final : verdict.result? = some result)
    (judged : (loop.judge reply (loop.judge.remember (repliesOf calls) initial)).1 = last) :
    verdict ∈ loop.judge.verdicts (repliesOf (calls ++ [.delivery reply])) initial ↔
      verdict = last := by
  have one : repliesOf (calls ++ [.delivery reply]) = repliesOf calls ++ [reply] :=
    repliesOf_concat calls (.delivery reply)
  rw [one, Judge.verdicts_concat, judged, List.mem_append, List.mem_singleton]
  simp only [discarded.notMem final, false_or]

/-- An exchange has a result exactly when a verdict made it. -/
theorem Fits.ended_iff {account : Account τ α} (fits : loop.Fits initial account)
    {verdict : Verdict α} {result : Except PeerError α} (final : verdict.result? = some result) :
    account.standing.stage = .ended result ↔
      verdict ∈ loop.judge.verdicts (repliesOf account.calls) initial := by
  cases fits with
  | opening left fresh unused discarded => simp [discarded.notMem final]
  | sending left unasked unused discarded => simp [discarded.notMem final]
  | waiting left asked heard discarded => simp [discarded.notMem final]
  | accepted left heard discarded judged | aborted left heard discarded judged =>
    rw [discarded.mem_concat_iff final judged, Verdict.eq_iff_of_result? final rfl,
      Stage.ended.injEq, eq_comm]
  | exhausted spent fresh discarded =>
    simp only [discarded.notMem final, iff_false, Stage.ended.injEq]
    rintro rfl
    exact verdict.result?_ne_retriesExhausted _ final

/-- All attempts are lost exactly when the exchange has ended for it. -/
theorem Fits.exhausted_iff {account : Account τ α} (fits : loop.Fits initial account)
    (count : Nat) :
    account.standing.stage = .ended (.error (.retriesExhausted count)) ↔
      count = loop.attempts ∧ losses account.calls = loop.attempts := by
  cases fits with
  | opening left | sending left | waiting left | accepted left | aborted left =>
    simp [Nat.ne_of_lt left]
  | exhausted spent => simp [spent, eq_comm]

/-- Only so many attempts are begun. -/
theorem Fits.begun_le {account : Account τ α} (fits : loop.Fits initial account) :
    attemptsBegun account.calls ≤ loop.attempts := by
  cases fits with
  | opening left | sending left | waiting left =>
    exact Nat.le_trans (attemptsBegun_le _) left
  | accepted left | aborted left =>
    refine Nat.le_trans (attemptsBegun_le _) (Nat.succ_le_of_lt ?_)
    simpa using left
  | exhausted spent fresh => simp [attemptsBegun, spent, fresh]

/-- The last attempt that is lost leaves no connection. -/
theorem Fits.connected_of_losses {account : Account τ α} (fits : loop.Fits initial account)
    (spent : losses account.calls = loop.attempts) : account.connected = false := by
  cases fits with
  | opening left | sending left | waiting left | accepted left | aborted left =>
    simp [Nat.ne_of_lt left] at spent
  | exhausted => rfl

/-- An exchange fails for want of attempts or for a reply that is wrong in itself. -/
theorem Fits.failures {account : Account τ α} (fits : loop.Fits initial account)
    {reason : PeerError} (ended : account.standing.stage = .ended (.error reason)) :
    reason = .retriesExhausted loop.attempts ∨ ∃ flaw, reason = .malformed flaw := by
  cases fits with
  | opening | sending | waiting | accepted => simp at ended
  | @aborted _ _ _ _ _ flaw =>
    simp only [Stage.ended.injEq, Except.error.injEq] at ended
    exact .inr ⟨flaw, ended.symm⟩
  | exhausted =>
    simp only [Stage.ended.injEq, Except.error.injEq] at ended
    exact .inl ended.symm

/-- An exchange that is accounted for keeps its contract. -/
theorem Accounted.contract {result : Traced (Session (Watched σ)) (Standing τ α)}
    (accounted : loop.Accounted before initial (account result)) :
    loop.Contract before initial result.state.calls result.value result.state.unwatched where
  orderly := accounted.booked.orderly
  lost := accounted.booked.lost
  begun := accounted.fits.begun_le
  connected := accounted.booked.connected
  sends := accounted.booked.sends
  accepted _ := accounted.fits.ended_iff rfl
  aborted _ := accounted.fits.ended_iff rfl
  exhausted := accounted.fits.exhausted_iff
  dropped := accounted.fits.connected_of_losses
  failures _ ended := accounted.fits.failures ended

/-- A step makes at most one call, which alone decides what it costs and whether a
connection is held behind it. -/
theorem Move.effect {account next : Account τ α} (move : loop.Move account next) :
    ∃ made, made.length ≤ 1 ∧ next.calls = account.calls ++ made ∧
      next.standing.lost = account.standing.lost + losses made ∧
      next.connected = heldAfter account.connected made := by
  cases move with
  | hold | rest => exact ⟨[], by simp, by simp, rfl, rfl⟩
  | connect => exact ⟨[.connect (.ok ())], by simp, rfl, rfl, rfl⟩
  | @send _ _ connected =>
    exact ⟨[.send loop.request (.ok ())], by simp, rfl, rfl, (Bool.or_false connected).symm⟩
  | @accept _ _ connected _ _ reply | @abort _ _ connected _ _ reply
  | @reject _ _ connected _ _ reply =>
    exact ⟨[.delivery reply], by simp, rfl, rfl, (Bool.or_false connected).symm⟩
  | @again _ _ _ connected _ _ call losing | @exhaust _ _ _ connected _ _ call losing =>
    obtain ⟨isLoss, -, -⟩ := losing.properties
    have cost : losses [call] = 1 := by simp [losses, isLoss]
    have dropped : heldAfter connected [call] = false := by simp [heldAfter, isLoss]
    exact ⟨[call], by simp, rfl, by rw [cost], dropped.symm⟩

/-- Where an accepted reply came from: it was the first one behind the last request
that was not discarded, and the connection on which it came is still held. -/
theorem Accounted.accepted {result : Traced (Session (Watched σ)) (Standing τ α)} {value : α}
    (accounted : loop.Accounted before initial (account result))
    (ended : result.value.stage = .ended (.ok value)) :
    ∃ (earlier : List Call) (discarded : List Wire.Message) (reply : Wire.Message),
      result.state.calls = earlier ++ .send loop.request (.ok ()) :: discarded.map Call.delivery ++
        [.delivery reply] ∧
      result.state.connected = true ∧
      (∀ other ∈ discarded, ∃ memory reason, (loop.judge other memory).1 = .reject reason) ∧
      ∃ memory, loop.judge reply memory = (.accept value, result.value.memory) := by
  obtain ⟨booked, fits⟩ := accounted
  obtain ⟨⟨memory, lost, stage⟩, session, journal⟩ := result
  simp only [account] at booked fits ended
  subst ended
  generalize listed : session.calls = calls at booked fits ⊢
  generalize session.connected = connected, session.sends = sends at booked fits ⊢
  cases fits with
  | @accepted _ _ _ heardCalls reply _ left heard discarded judged =>
    obtain ⟨earlier, replies, rfl⟩ := heard
    refine ⟨earlier, replies, reply, by simp, rfl, fun other member => ?_, ?_⟩
    · have listened : other ∈ repliesOf
          (earlier ++ .send loop.request (.ok ()) :: replies.map Call.delivery) :=
        List.mem_filterMap.mpr ⟨.delivery other, List.mem_append_right _
          (List.mem_cons_of_mem _ (List.mem_map_of_mem member)), rfl⟩
      obtain ⟨remembered, found⟩ := loop.judge.mem_verdicts listened initial
      exact ⟨remembered, discarded _ found⟩
    · have remembered := booked.memory
      simp only [repliesOf_concat, Call.reply?_delivery, Option.toList_some,
        Judge.remember_concat] at remembered
      exact ⟨_, Prod.ext judged remembered.symm⟩

variable (loop before initial)

/-- What an exchange keeps to, whatever the transport answers. After any number of
steps the watched exchange has done what the exchange does, and its contract
holds. One step makes at most one call; the attempts that are lost grow by one
and the connection is dropped if the call came to nothing, and a discarded reply
changes neither. The exchange ends if on each connection only so many messages
arrive in a row. An exchange over a link is the end of such a run, and its calls
are those of the run. -/
theorem keeps_contract :
    (∀ steps,
      let watched := loop.watched.run steps (.start initial) before.watched
      let later := loop.watched.run (steps + 1) (.start initial) before.watched
      watched.unwatched = loop.run steps (.start initial) before ∧
      loop.Contract before initial watched.state.calls watched.value watched.state.unwatched ∧
      ∃ made, made.length ≤ 1 ∧ later.state.calls = watched.state.calls ++ made ∧
        later.value.lost = watched.value.lost + losses made ∧
        later.state.connected = heldAfter watched.state.connected made) ∧
    (loop.Dry (.start initial) before → loop.Ends (.start initial) before) ∧
    (∀ client : Client σ, client.retryLoop loop.what loop.request loop.judge = loop →
      let watched :=
        client.watched.exchange loop.what loop.request loop.judge initial before.watched
      let exchanged := client.exchange loop.what loop.request loop.judge initial before
      watched.unwatched = exchanged ∧
      ∃ steps lost,
        loop.watched.run steps (.start initial) before.watched =
          ⟨⟨exchanged.value.2, lost, .ended exchanged.value.1⟩, watched.state, watched.journal⟩ ∧
        loop.Contract before initial watched.state.calls
          ⟨exchanged.value.2, lost, .ended exchanged.value.1⟩ exchanged.state) := by
  refine ⟨fun steps => ⟨loop.mirrors_run steps _ _, ?_, ?_⟩, ends_of_dry, ?_⟩
  · exact (loop.accounted_run before initial steps).contract
  · exact (loop.move_step _ _).effect
  · intro client same watched exchanged
    have mirrored : watched.unwatched = exchanged :=
      client.mirrors_exchange loop.what loop.request loop.judge initial before.watched
    have settled : loop.watched.Settles (.start initial) before.watched watched := by
      rw [← same]
      exact client.watched.settles_exchange loop.what loop.request loop.judge initial _
    obtain ⟨steps, lost, reached⟩ := settled
    have contract := (loop.accounted_run before initial steps).contract
    rw [reached] at contract
    rw [← mirrored]
    exact ⟨rfl, steps, lost, reached, contract⟩

end RetryLoop

end PhotonFerry
