import PhotonFerry.Proofs.Client.Account
/-!
# What an exchange leaves alone

An exchange opens connections, sends its request and waits. It does not change
where the client stands or which detector it knows, it sends no other request, and
it counts the connections that it opens. `Framed` says the first and the last of an
action and is kept by going on from one framed action to the next.
-/

namespace PhotonFerry

/-- The number of connections that were opened. -/
def connections (calls : List Call) : Nat :=
  calls.countP Call.opens

@[simp] theorem connections_append (first second : List Call) :
    connections (first ++ second) = connections first + connections second :=
  List.countP_append

/-- The session counts connections as if so many had been opened: whether there was
one, and how many came after the first. -/
def Session.Counts {σ : Type} (session : Session σ) (opened : Nat) : Prop :=
  session.everConnected = decide (0 < opened) ∧ session.reconnects = opened - 1

/-- What lies between two sessions with an exchange between them. -/
structure Frame {σ : Type} (before after : Session (Watched σ)) : Prop where
  phase : after.phase = before.phase
  detector : after.detector = before.detector
  counts : ∀ earlier, before.Counts (earlier + connections before.calls) →
    after.Counts (earlier + connections after.calls)

namespace Frame

variable {σ : Type} {first second third : Session (Watched σ)}

theorem refl (session : Session (Watched σ)) : Frame session session where
  phase := rfl
  detector := rfl
  counts _ counted := counted

theorem trans (head : Frame first second) (tail : Frame second third) : Frame first third where
  phase := tail.phase.trans head.phase
  detector := tail.detector.trans head.detector
  counts earlier counted := tail.counts earlier (head.counts earlier counted)

/-- Nothing needs counting where no connection is opened. -/
theorem of_unopened (phase : second.phase = first.phase)
    (detector : second.detector = first.detector)
    (everConnected : second.everConnected = first.everConnected)
    (reconnects : second.reconnects = first.reconnects)
    (calls : connections second.calls = connections first.calls) : Frame first second where
  phase := phase
  detector := detector
  counts earlier counted := by rwa [Session.Counts, everConnected, reconnects, calls]

end Frame

/-- The action leaves alone what an exchange leaves alone. -/
def Framed {σ α : Type} (action : Action (Session (Watched σ)) α) : Prop :=
  ∀ session, Frame session (action session).state

namespace Framed

variable {σ α β : Type}

/-- Going on keeps the frame. -/
theorem bind {first : Action (Session (Watched σ)) α}
    {next : α → Action (Session (Watched σ)) β} (head : Framed first)
    (tail : ∀ value, Framed (next value)) : Framed (first >>= next) :=
  fun session => (head session).trans (tail _ _)

theorem pure (value : α) : Framed (Pure.pure value : Action (Session (Watched σ)) α) :=
  fun session => .refl session

theorem note (severity : Severity) (topic : Topic) (text : String) :
    Framed (σ := σ) (Action.note severity topic text) :=
  fun session => .refl session

theorem disconnect : Framed (Session.disconnect (σ := Watched σ)) := fun _ =>
  { phase := rfl, detector := rfl, counts := fun _ counted => counted }

/-- Acting on the world keeps the frame if the call opens nothing. -/
theorem outside {call : α → Call} {action : Action σ α}
    (unopened : ∀ value, (call value).opens = false) :
    Framed (Session.outside (Watched.recording call action)) := by
  intro session
  have calls : (Session.outside (Watched.recording call action) session).state.calls =
      session.calls ++ [call (action session.world.world).value] := rfl
  refine .of_unopened rfl rfl rfl rfl ?_
  rw [calls]
  simp [connections, unopened]

end Framed

section Steps

variable {σ τ α : Type}

/-- A connection that is opened is counted. -/
theorem Transport.framed_ensureConnected (transport : Transport σ) :
    Framed transport.watched.ensureConnected := by
  intro session
  have called : (transport.watched.connect session.world).state.calls =
      session.calls ++ [.connect (transport.connect session.world.world).value] := rfl
  cases held : session.connected with
  | true =>
    rw [ensureConnected_held held]
    exact .refl session
  | false =>
    cases answer : (transport.connect session.world.world).value with
    | error reason =>
      rw [answer] at called
      rw [ensureConnected_failed held answer]
      refine .of_unopened rfl rfl rfl rfl ?_
      rw [Session.calls, called]
      simp [connections, Call.opens]
    | ok =>
      rw [answer] at called
      rw [ensureConnected_opened held answer]
      refine { phase := rfl, detector := rfl, counts := ?_ }
      rintro earlier ⟨ever, later⟩
      have one : connections (session.calls ++ [.connect (.ok ())]) =
          connections session.calls + 1 := by
        simp [connections, Call.opens]
      rw [Session.Counts, Session.calls, called, one, ever, later]
      refine ⟨(decide_eq_true (by omega)).symm, ?_⟩
      simp only [decide_eq_true_eq]
      split <;> omega

theorem Transport.framed_transmit (transport : Transport σ) (request : Wire.Message) :
    Framed (transport.watched.transmit request) := by
  refine Framed.bind (Framed.outside fun _ => rfl) fun answer => ?_
  cases answer with
  | error reason => exact .pure _
  | ok => exact fun session => .of_unopened rfl rfl rfl rfl rfl

namespace RetryLoop

variable (loop : RetryLoop σ τ α)

theorem framed_lose (memory : τ) (lost : Nat) (reason : PeerError) :
    Framed (loop.watched.lose memory lost reason) := by
  refine Framed.disconnect.bind fun _ => ?_
  split
  · exact (Framed.note _ _ _).bind fun _ => .pure _
  · exact .pure _

theorem framed_hear (standing : Standing τ α) (reply : Wire.Message) :
    Framed (loop.watched.hear standing reply) := by
  unfold hear
  split
  · exact .pure _
  · exact .pure _
  · exact (Framed.note _ _ _).bind fun _ => .pure _

/-- Each step of an exchange keeps the frame. -/
theorem framed_step (standing : Standing τ α) : Framed (loop.watched.step standing) := by
  obtain ⟨memory, lost, stage⟩ := standing
  cases stage with
  | opening =>
    refine loop.transport.framed_ensureConnected.bind fun answer => ?_
    cases answer with
    | error reason => exact loop.framed_lose memory lost reason
    | ok => exact .pure _
  | sending =>
    refine (loop.transport.framed_transmit loop.request).bind fun answer => ?_
    cases answer with
    | error reason => exact loop.framed_lose memory lost reason
    | ok => exact .pure _
  | waiting =>
    refine Framed.bind (Framed.outside fun _ => rfl) fun answer => ?_
    rcases answer with reason | (_ | reply)
    · exact loop.framed_lose memory lost reason
    · exact loop.framed_lose memory lost .timeout
    · exact loop.framed_hear _ reply
  | ended result => exact .pure _

/-- So does every run of an exchange. -/
theorem framed_run (steps : Nat) (standing : Standing τ α) :
    Framed (loop.watched.run steps standing) := by
  induction steps with
  | zero => exact .pure _
  | succ steps step => exact step.bind fun middle => loop.framed_step middle

/-- Watched from its beginning in a session, the exchange comes to this end. -/
def EndsIn (memory : τ) (session : Session σ)
    (outcome : Traced (Session (Watched σ)) (Except PeerError α × τ)) : Prop :=
  loop.watched.Settles (.start memory) session.watched outcome

/-- What an exchange leaves that has a result after so many steps. -/
def outcomeAfter (memory : τ) (session : Session σ) (steps : Nat)
    (result : Except PeerError α) : Traced (Session (Watched σ)) (Except PeerError α × τ) :=
  let reached := loop.watched.run steps (.start memory) session.watched
  ⟨(result, reached.value.memory), reached.state, reached.journal⟩

variable {loop} {memory : τ} {session : Session σ}
  {outcome : Traced (Session (Watched σ)) (Except PeerError α × τ)}

/-- An exchange that has a result at some moment ends with it, and with what it has left by then. -/
theorem endsIn_outcomeAfter {steps : Nat} {result : Except PeerError α}
    (ended : (loop.watched.run steps (.start memory) session.watched).value.stage =
      .ended result) :
    loop.EndsIn memory session (loop.outcomeAfter memory session steps result) := by
  refine ⟨steps, (loop.watched.run steps (.start memory) session.watched).value.lost, ?_⟩
  rw [outcomeAfter, ← ended]

/-- An exchange that ended kept the frame. -/
theorem EndsIn.frame (ended : loop.EndsIn memory session outcome) :
    Frame session.watched outcome.state := by
  obtain ⟨steps, lost, reached⟩ := ended
  have framed := loop.framed_run steps (.start memory) session.watched
  rwa [reached] at framed

/-- The connections that an exchange opened are counted. -/
theorem EndsIn.counts (ended : loop.EndsIn memory session outcome) {opened : Nat}
    (counted : session.Counts opened) :
    outcome.state.unwatched.Counts (opened + connections outcome.state.calls) :=
  ended.frame.counts opened counted

/-- An exchange sends nothing but its request. -/
theorem EndsIn.sends (ended : loop.EndsIn memory session outcome) {request : Wire.Message}
    {answer : Except PeerError Unit} (sent : .send request answer ∈ outcome.state.calls) :
    request = loop.request := by
  obtain ⟨lost, accounted⟩ := Settles.accounted ended
  obtain ⟨before, after, split⟩ := List.append_of_mem sent
  exact (accounted.booked.orderly before _ after split).2.1

end RetryLoop

end Steps

end PhotonFerry
