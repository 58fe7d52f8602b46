import PhotonFerry.Proofs.Client.Calls
/-!
# The account of an exchange

What a step of the retry loop can do to the standing, the connection, the count
of requests and the calls is said once, by `Move`. `Accounted` is the invariant
of these moves: the calls so far are in order and everything that the exchange
goes by can be read off them.
-/

namespace PhotonFerry

/-- The part of a watched exchange that its steps decide by. -/
structure Account (τ α : Type) where
  standing : Standing τ α
  connected : Bool
  sends : Nat
  calls : List Call

namespace RetryLoop

variable {σ τ α : Type} (loop : RetryLoop σ τ α)

/-- The account of a watched exchange. -/
def account (result : Traced (Session (Watched σ)) (Standing τ α)) : Account τ α :=
  ⟨result.value, result.state.connected, result.state.sends, result.state.calls⟩

/-- The calls by which an exchange can lose an attempt. -/
inductive Losing : Stage α → (connected : Bool) → Call → Prop where
  | connect {reason : PeerError} : Losing .opening false (.connect (.error reason))
  | send {connected : Bool} {reason : PeerError} :
      Losing .sending connected (.send loop.request (.error reason))
  | poll {connected : Bool} {reason : PeerError} : Losing .waiting connected (.poll (.error reason))
  | silence {connected : Bool} : Losing .waiting connected (.poll (.ok none))

/-- What one step can do. -/
inductive Move : Account τ α → Account τ α → Prop where
  /-- The connection that is held is used. -/
  | hold {memory lost sends calls} :
      Move ⟨⟨memory, lost, .opening⟩, true, sends, calls⟩
        ⟨⟨memory, lost, .sending⟩, true, sends, calls⟩
  /-- A connection is opened. -/
  | connect {memory lost sends calls} :
      Move ⟨⟨memory, lost, .opening⟩, false, sends, calls⟩
        ⟨⟨memory, lost, .sending⟩, true, sends, calls ++ [.connect (.ok ())]⟩
  /-- The request is sent. -/
  | send {memory lost connected sends calls} :
      Move ⟨⟨memory, lost, .sending⟩, connected, sends, calls⟩
        ⟨⟨memory, lost, .waiting⟩, connected, sends + 1, calls ++ [.send loop.request (.ok ())]⟩
  /-- A reply is accepted. -/
  | accept {memory lost connected sends calls reply value after}
      (judged : loop.judge reply memory = (.accept value, after)) :
      Move ⟨⟨memory, lost, .waiting⟩, connected, sends, calls⟩
        ⟨⟨after, lost, .ended (.ok value)⟩, connected, sends, calls ++ [.delivery reply]⟩
  /-- A reply is the right one and wrong in itself. -/
  | abort {memory lost connected sends calls reply reason after}
      (judged : loop.judge reply memory = (.abort reason, after)) :
      Move ⟨⟨memory, lost, .waiting⟩, connected, sends, calls⟩
        ⟨⟨after, lost, .ended (.error (.malformed reason))⟩, connected, sends,
          calls ++ [.delivery reply]⟩
  /-- A reply is discarded. -/
  | reject {memory lost connected sends calls reply reason after}
      (judged : loop.judge reply memory = (.reject reason, after)) :
      Move ⟨⟨memory, lost, .waiting⟩, connected, sends, calls⟩
        ⟨⟨after, lost, .waiting⟩, connected, sends, calls ++ [.delivery reply]⟩
  /-- An attempt is lost, and another follows. -/
  | again {memory lost stage connected sends calls call} (losing : loop.Losing stage connected call)
      (left : lost + 1 < loop.attempts) :
      Move ⟨⟨memory, lost, stage⟩, connected, sends, calls⟩
        ⟨⟨memory, lost + 1, .opening⟩, false, sends, calls ++ [call]⟩
  /-- The last attempt is lost. -/
  | exhaust {memory lost stage connected sends calls call}
      (losing : loop.Losing stage connected call) (last : ¬ lost + 1 < loop.attempts) :
      Move ⟨⟨memory, lost, stage⟩, connected, sends, calls⟩
        ⟨⟨memory, lost + 1, .ended (.error (.retriesExhausted loop.attempts))⟩, false, sends,
          calls ++ [call]⟩
  /-- Nothing happens any more. -/
  | rest {memory lost result connected sends calls} :
      Move ⟨⟨memory, lost, .ended result⟩, connected, sends, calls⟩
        ⟨⟨memory, lost, .ended result⟩, connected, sends, calls⟩

/-- Losing an attempt is a move. -/
theorem move_lose {memory : τ} {lost : Nat} {stage : Stage α} {connected : Bool}
    {calls : List Call} {call : Call} {reason : PeerError} (session : Session (Watched σ))
    (losing : loop.Losing stage connected call) (called : session.calls = calls ++ [call]) :
    loop.Move ⟨⟨memory, lost, stage⟩, connected, session.sends, calls⟩
      (account (loop.watched.lose memory lost reason session)) := by
  have same : ({ session with connected := false } : Session (Watched σ)).calls = calls ++ [call] :=
    called
  by_cases left : lost + 1 < loop.attempts
  · rw [loop.watched.lose_again left, account, same]
    exact .again losing left
  · rw [loop.watched.lose_last left, account, same]
    exact .exhaust losing left

/-- Having a reply judged is a move. -/
theorem move_hear {memory : τ} {lost : Nat} {reply : Wire.Message} {calls : List Call}
    (session : Session (Watched σ)) (called : session.calls = calls ++ [.delivery reply]) :
    loop.Move ⟨⟨memory, lost, .waiting⟩, session.connected, session.sends, calls⟩
      (account (loop.watched.hear ⟨memory, lost, .waiting⟩ reply session)) := by
  rcases judged : loop.judge reply memory with ⟨verdict, after⟩
  simp only [hear, watched, judged]
  cases verdict with
  | accept value =>
    simp only [account, Action.pure_apply, called]
    exact .accept judged
  | abort reason =>
    simp only [account, Action.pure_apply, called]
    exact .abort judged
  | reject reason =>
    simp only [account, Action.bind_value, Action.bind_state, Action.pure_apply, Action.info,
      Action.note_apply, called]
    exact .reject judged

/-- Every step of a watched exchange is a move. -/
theorem move_step (standing : Standing τ α) (session : Session (Watched σ)) :
    loop.Move ⟨standing, session.connected, session.sends, session.calls⟩
      (account (loop.watched.step standing session)) := by
  obtain ⟨memory, lost, stage⟩ := standing
  cases stage with
  | opening =>
    simp only [step, Action.bind_apply]
    cases held : session.connected with
    | true =>
      rw [Transport.ensureConnected_held held]
      simp only [Traced.andThen, account, Action.pure_apply, held]
      exact .hold
    | false =>
      cases answer : (loop.transport.connect session.world.world).value with
      | error reason =>
        rw [Transport.ensureConnected_failed held answer]
        exact loop.move_lose
          { session with world := (loop.watched.transport.connect session.world).state }
          .connect (by rw [← answer]; rfl)
      | ok =>
        rw [Transport.ensureConnected_opened held answer]
        have move := @Move.connect _ _ _ loop memory lost session.sends session.calls
        rwa [← answer] at move
  | sending =>
    simp only [step, Action.bind_apply]
    cases answer : (loop.transport.send loop.request session.world.world).value with
    | error reason =>
      rw [Transport.transmit_failed answer]
      exact loop.move_lose
        { session with world := (loop.watched.transport.send loop.request session.world).state }
        .send (by rw [← answer]; rfl)
    | ok =>
      rw [Transport.transmit_sent answer]
      have move := @Move.send _ _ _ loop memory lost session.connected session.sends session.calls
      rwa [← answer] at move
  | waiting =>
    let after := { session with world := (loop.watched.transport.poll session.world).state }
    simp only [step, Action.bind_apply, Session.outside_apply]
    cases answer : (loop.watched.transport.poll session.world).value with
    | error reason => exact loop.move_lose after .poll (by rw [← answer]; rfl)
    | ok message =>
      cases message with
      | none => exact loop.move_lose after .silence (by rw [← answer]; rfl)
      | some reply => exact loop.move_hear after (by rw [Call.delivery, ← answer]; rfl)
  | ended result => exact .rest

section Invariant

variable (before : Session σ) (initial : τ)

/-- All replies so far were discarded. -/
def Discarded (calls : List Call) : Prop :=
  ∀ verdict ∈ loop.judge.verdicts (repliesOf calls) initial, ∃ reason, verdict = .reject reason

/-- The request was sent, and since then messages were delivered. -/
def Heard (calls : List Call) : Prop :=
  ∃ (earlier : List Call) (heard : List Wire.Message),
    calls = earlier ++ .send loop.request (.ok ()) :: heard.map Call.delivery

/-- The calls are in order, and the exchange counts and remembers what they say. -/
structure Booked (account : Account τ α) : Prop where
  orderly : Orderly loop.attempts loop.request before.connected account.calls
  lost : account.standing.lost = losses account.calls
  connected : account.connected = heldAfter before.connected account.calls
  sends : account.sends = before.sends + requestsSent account.calls
  memory : account.standing.memory = loop.judge.remember (repliesOf account.calls) initial

/-- What the calls say at each stage. -/
inductive Fits : Account τ α → Prop where
  | opening {memory lost connected sends calls} (left : losses calls < loop.attempts)
      (fresh : thisAttempt calls = [])
      (unused : connected = true → ∀ call ∈ thisConnection calls, call.isSend = false)
      (discarded : loop.Discarded initial calls) :
      Fits ⟨⟨memory, lost, .opening⟩, connected, sends, calls⟩
  | sending {memory lost sends calls} (left : losses calls < loop.attempts)
      (unasked : ∀ call ∈ thisAttempt calls, call.isSend = false)
      (unused : ∀ call ∈ thisConnection calls, call.isSend = false)
      (discarded : loop.Discarded initial calls) :
      Fits ⟨⟨memory, lost, .sending⟩, true, sends, calls⟩
  | waiting {memory lost sends calls} (left : losses calls < loop.attempts)
      (asked : .send loop.request (.ok ()) ∈ thisAttempt calls) (heard : loop.Heard calls)
      (discarded : loop.Discarded initial calls) :
      Fits ⟨⟨memory, lost, .waiting⟩, true, sends, calls⟩
  | accepted {memory lost sends calls reply value} (left : losses calls < loop.attempts)
      (heard : loop.Heard calls) (discarded : loop.Discarded initial calls)
      (judged : (loop.judge reply (loop.judge.remember (repliesOf calls) initial)).1 =
        .accept value) :
      Fits ⟨⟨memory, lost, .ended (.ok value)⟩, true, sends, calls ++ [.delivery reply]⟩
  | aborted {memory lost sends calls reply reason} (left : losses calls < loop.attempts)
      (heard : loop.Heard calls) (discarded : loop.Discarded initial calls)
      (judged : (loop.judge reply (loop.judge.remember (repliesOf calls) initial)).1 =
        .abort reason) :
      Fits ⟨⟨memory, lost, .ended (.error (.malformed reason))⟩, true, sends,
        calls ++ [.delivery reply]⟩
  | exhausted {memory lost sends calls} (spent : losses calls = loop.attempts)
      (fresh : thisAttempt calls = []) (discarded : loop.Discarded initial calls) :
      Fits ⟨⟨memory, lost, .ended (.error (.retriesExhausted loop.attempts))⟩, false, sends, calls⟩

/-- The invariant of an exchange. -/
structure Accounted (account : Account τ α) : Prop where
  booked : loop.Booked before initial account
  fits : loop.Fits initial account

variable {loop before initial}

/-- Books stay right with one more call that is permitted and has its effect. -/
theorem Booked.concat {standing next : Standing τ α} {connected after : Bool} {sends count : Nat}
    {calls : List Call} {call : Call}
    (booked : loop.Booked before initial ⟨standing, connected, sends, calls⟩)
    (left : losses calls < loop.attempts)
    (permitted : Permitted loop.request before.connected calls call)
    (lost : next.lost = standing.lost + if call.isLoss then 1 else 0)
    (held : after = if call.isLoss then false else connected || call.opens)
    (sent : count = sends + if call.isSent then 1 else 0)
    (remembered : next.memory = loop.judge.remember call.reply?.toList standing.memory) :
    loop.Booked before initial ⟨next, after, count, calls ++ [call]⟩ where
  orderly := booked.orderly.concat left permitted
  lost := by rw [lost, booked.lost, losses_concat]
  connected := by
    rw [heldAfter_concat, ← booked.connected]
    exact held
  sends := by
    rw [requestsSent_concat, ← Nat.add_assoc, ← booked.sends]
    exact sent
  memory := by
    rw [remembered, booked.memory, repliesOf_concat, Judge.remember, Judge.remember,
      Judge.remember, List.foldl_append]

/-- A call that delivers nothing leaves the verdicts as they were. -/
theorem Discarded.concat {calls : List Call} {call : Call}
    (discarded : loop.Discarded initial calls) (silent : call.reply? = none) :
    loop.Discarded initial (calls ++ [call]) := by
  rwa [Discarded, repliesOf_concat, silent, Option.toList_none, List.append_nil]

/-- One more message was discarded. -/
theorem Discarded.reject {calls : List Call} {reply : Wire.Message} {reason : Wire.WireError}
    (discarded : loop.Discarded initial calls)
    (judged : (loop.judge reply (loop.judge.remember (repliesOf calls) initial)).1 =
      .reject reason) :
    loop.Discarded initial (calls ++ [.delivery reply]) := by
  have one : repliesOf (calls ++ [.delivery reply]) = repliesOf calls ++ [reply] :=
    repliesOf_concat calls (.delivery reply)
  rw [Discarded, one, Judge.verdicts_concat, judged]
  intro verdict member
  rcases List.mem_append.mp member with earlier | last
  · exact discarded verdict earlier
  · exact ⟨reason, List.mem_singleton.mp last⟩

/-- What is called in vain is a loss and delivers nothing. -/
theorem Losing.properties {stage : Stage α} {connected : Bool} {call : Call}
    (losing : loop.Losing stage connected call) :
    call.isLoss = true ∧ call.isSent = false ∧ call.reply? = none := by
  cases losing <;> exact ⟨rfl, rfl, rfl⟩

/-- What is called in vain was permitted. -/
theorem Losing.permitted {memory : τ} {lost sends : Nat} {stage : Stage α} {connected : Bool}
    {calls : List Call} {call : Call} (losing : loop.Losing stage connected call)
    (accounted : loop.Accounted before initial ⟨⟨memory, lost, stage⟩, connected, sends, calls⟩) :
    losses calls < loop.attempts ∧ Permitted loop.request before.connected calls call ∧
      loop.Discarded initial calls := by
  have held := accounted.booked.connected
  cases losing with
  | connect =>
    cases accounted.fits with
    | opening left fresh unused discarded => exact ⟨left, held.symm, discarded⟩
  | send =>
    cases accounted.fits with
    | sending left unasked unused discarded =>
      exact ⟨left, ⟨rfl, held.symm, unasked, unused⟩, discarded⟩
  | poll =>
    cases accounted.fits with
    | waiting left asked heard discarded => exact ⟨left, ⟨held.symm, asked⟩, discarded⟩
  | silence =>
    cases accounted.fits with
    | waiting left asked heard discarded => exact ⟨left, ⟨held.symm, asked⟩, discarded⟩

/-- An attempt that is lost is counted, and its connection is gone. -/
theorem Losing.booked {memory : τ} {lost sends : Nat} {stage : Stage α} {connected : Bool}
    {calls : List Call} {call : Call} (losing : loop.Losing stage connected call)
    (accounted : loop.Accounted before initial ⟨⟨memory, lost, stage⟩, connected, sends, calls⟩)
    (next : Stage α) :
    loop.Booked before initial ⟨⟨memory, lost + 1, next⟩, false, sends, calls ++ [call]⟩ := by
  obtain ⟨isLoss, notSent, silent⟩ := losing.properties
  obtain ⟨within, permitted, -⟩ := losing.permitted accounted
  refine accounted.booked.concat within permitted ?_ ?_ ?_ ?_
  · simp [isLoss]
  · simp [isLoss]
  · simp [notSent]
  · simp [silent, Judge.remember]

/-- One more message was heard. -/
theorem Heard.concat {calls : List Call} {reply : Wire.Message} (heard : loop.Heard calls) :
    loop.Heard (calls ++ [.delivery reply]) := by
  obtain ⟨earlier, replies, rfl⟩ := heard
  refine ⟨earlier, replies ++ [reply], ?_⟩
  rw [List.map_append, List.append_assoc]
  rfl

/-- Every move keeps the account. -/
theorem Accounted.move {account next : Account τ α}
    (accounted : loop.Accounted before initial account) (move : loop.Move account next) :
    loop.Accounted before initial next := by
  have booked := accounted.booked
  have fits := accounted.fits
  cases move with
  | hold =>
    cases fits with
    | opening left fresh unused discarded =>
      refine ⟨⟨booked.orderly, booked.lost, booked.connected, booked.sends, booked.memory⟩, ?_⟩
      exact .sending left (by simp [fresh]) (unused rfl) discarded
  | connect =>
    cases fits with
    | opening left fresh unused discarded =>
      refine ⟨booked.concat left booked.connected.symm rfl rfl rfl rfl, ?_⟩
      refine .sending (by simpa [Call.isLoss] using left) ?_ ?_ (discarded.concat rfl)
      · simp [fresh, Call.isLoss, Call.isSend]
      · simp [Call.opens]
  | send =>
    cases fits with
    | sending left unasked unused discarded =>
      refine ⟨booked.concat left ⟨rfl, booked.connected.symm, unasked, unused⟩ rfl rfl rfl rfl, ?_⟩
      refine .waiting (by simpa [Call.isLoss] using left) ?_ ⟨_, [], rfl⟩ (discarded.concat rfl)
      simp [Call.isLoss]
  | accept judged =>
    cases fits with
    | waiting left asked heard discarded =>
      refine ⟨booked.concat left ⟨booked.connected.symm, asked⟩ rfl rfl rfl ?_, ?_⟩
      · simp [Judge.remember, judged]
      · refine .accepted left heard discarded ?_
        rw [← booked.memory, judged]
  | abort judged =>
    cases fits with
    | waiting left asked heard discarded =>
      refine ⟨booked.concat left ⟨booked.connected.symm, asked⟩ rfl rfl rfl ?_, ?_⟩
      · simp [Judge.remember, judged]
      · refine .aborted left heard discarded ?_
        rw [← booked.memory, judged]
  | reject judged =>
    cases fits with
    | waiting left asked heard discarded =>
      refine ⟨booked.concat left ⟨booked.connected.symm, asked⟩ rfl rfl rfl ?_, ?_⟩
      · simp [Judge.remember, judged]
      · refine .waiting (by simpa using left) ?_ heard.concat ?_
        · simp [asked]
        · exact discarded.reject (by rw [← booked.memory, judged])
  | @again memory lost stage connected sends calls call losing left =>
    obtain ⟨isLoss, -, silent⟩ := losing.properties
    obtain ⟨-, -, discarded⟩ := losing.permitted accounted
    have counted : lost = losses calls := booked.lost
    refine ⟨losing.booked accounted .opening, ?_⟩
    refine .opening ?_ (by simp [isLoss]) (by simp) (discarded.concat silent)
    simp only [losses_concat, isLoss, if_true]
    omega
  | @exhaust memory lost stage connected sends calls call losing last =>
    obtain ⟨isLoss, -, silent⟩ := losing.properties
    obtain ⟨within, -, discarded⟩ := losing.permitted accounted
    have counted : lost = losses calls := booked.lost
    refine ⟨losing.booked accounted _, .exhausted ?_ (by simp [isLoss]) (discarded.concat silent)⟩
    simp only [losses_concat, isLoss, if_true]
    omega
  | rest => exact accounted

variable (loop before initial)

/-- An exchange that has not begun is accounted for. -/
theorem accounted_start : loop.Accounted before initial
    ⟨.start initial, before.connected, before.sends, []⟩ where
  booked := ⟨fun _ _ _ split => by simp at split, rfl, rfl, rfl, rfl⟩
  fits := .opening loop.attempts_pos rfl (fun _ _ member => nomatch member)
    (fun _ member => nomatch member)

/-- After any number of steps an exchange is accounted for. -/
theorem accounted_run (steps : Nat) : loop.Accounted before initial
    (account (loop.watched.run steps (.start initial) before.watched)) := by
  induction steps with
  | zero => exact loop.accounted_start before initial
  | succ steps step => exact step.move (loop.move_step _ _)

variable {loop before initial}

/-- So is an exchange that has come to its end. -/
theorem Settles.accounted {outcome : Traced (Session (Watched σ)) (Except PeerError α × τ)}
    (settled : loop.watched.Settles (.start initial) before.watched outcome) :
    ∃ lost, loop.Accounted before initial
      (account ⟨⟨outcome.value.2, lost, .ended outcome.value.1⟩, outcome.state,
        outcome.journal⟩) := by
  obtain ⟨steps, lost, reached⟩ := settled
  exact ⟨lost, reached ▸ loop.accounted_run before initial steps⟩

end Invariant

end RetryLoop

end PhotonFerry
