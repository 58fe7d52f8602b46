import PhotonFerry.Client.Session
import PhotonFerry.Proofs.Client.RetryLoop
/-!
# The same work in another world

A transport may do in one world what another does in a second one, which is seen
through a view of the first. Whatever a client does over the one it then does over
the other: `Carries` says so of an action, and it is kept by going on from one
carried action to the next.
-/

namespace PhotonFerry

section Views

variable {σ ρ α β : Type}

/-- The session in the world as it is seen. -/
def Session.carried (view : σ → ρ) (session : Session σ) : Session ρ :=
  { session with world := view session.world }

/-- What an action leaves, in the world as it is seen. -/
def Traced.carried (view : σ → ρ) (result : Traced (Session σ) α) : Traced (Session ρ) α :=
  ⟨result.value, result.state.carried view, result.journal⟩

/-- The second action does in the world as it is seen what the first does. -/
def Carries (view : σ → ρ) (first : Action (Session σ) α) (second : Action (Session ρ) α) : Prop :=
  ∀ session, (first session).carried view = second (session.carried view)

/-- The second transport does in the world as it is seen what the first does. -/
structure Transport.Carried (view : σ → ρ) (first : Transport σ) (second : Transport ρ) :
    Prop where
  endpoint : first.endpoint = second.endpoint
  connect : ∀ world, second.connect (view world) =
    ⟨(first.connect world).value, view (first.connect world).state, (first.connect world).journal⟩
  send : ∀ request world, second.send request (view world) =
    ⟨(first.send request world).value, view (first.send request world).state,
      (first.send request world).journal⟩
  poll : ∀ world, second.poll (view world) =
    ⟨(first.poll world).value, view (first.poll world).state, (first.poll world).journal⟩

namespace Carries

variable {view : σ → ρ}

/-- Going on keeps what is carried. -/
theorem bind {first : Action (Session σ) α} {second : Action (Session ρ) α}
    {firstNext : α → Action (Session σ) β} {secondNext : α → Action (Session ρ) β}
    (head : Carries view first second)
    (next : ∀ value, Carries view (firstNext value) (secondNext value)) :
    Carries view (first >>= firstNext) (second >>= secondNext) := by
  intro session
  have here := head session
  have later := next (first session).value (first session).state
  simp only [Traced.carried] at here later
  simp only [Action.bind_apply, Traced.andThen, Traced.carried, ← here, ← later]

theorem pure (value : α) :
    Carries view (Pure.pure value : Action (Session σ) α) (Pure.pure value) :=
  fun _ => rfl

theorem note (severity : Severity) (topic : Topic) (text : String) :
    Carries view (Action.note severity topic text) (Action.note severity topic text) :=
  fun _ => rfl

theorem disconnect : Carries view Session.disconnect Session.disconnect :=
  fun _ => rfl

theorem enter (phase : Phase) : Carries view (Session.enter phase) (Session.enter phase) :=
  fun _ => rfl

/-- Acting on the world is carried if the action is. -/
theorem outside {first : Action σ α} {second : Action ρ α}
    (same : ∀ world, second (view world) =
      ⟨(first world).value, view (first world).state, (first world).journal⟩) :
    Carries view (Session.outside first) (Session.outside second) := by
  intro session
  simp only [Session.outside_apply, Traced.carried, Session.carried, same]

end Carries

end Views

namespace Transport.Carried

variable {σ ρ : Type} {view : σ → ρ} {first : Transport σ} {second : Transport ρ}

theorem ensureConnected (carried : Carried view first second) :
    Carries view first.ensureConnected second.ensureConnected := by
  intro session
  simp only [Transport.ensureConnected, Action.get_bind]
  have same : (session.carried view).connected = session.connected := rfl
  rw [same]
  split
  · rfl
  · refine (Carries.outside carried.connect).bind (fun answer => ?_) session
    cases answer with
    | error reason => exact .pure _
    | ok =>
      intro after
      have opened : (session.carried view).everConnected = session.everConnected := rfl
      rw [opened, carried.endpoint]
      cases session.everConnected <;> rfl

theorem transmit (carried : Carried view first second) (request : Wire.Message) :
    Carries view (first.transmit request) (second.transmit request) := by
  refine (Carries.outside (carried.send request)).bind fun answer => ?_
  cases answer with
  | error reason => exact .pure _
  | ok => exact fun _ => rfl

end Transport.Carried

namespace RetryLoop

variable {σ ρ τ α : Type} {view : σ → ρ} {other : Transport ρ} (loop : RetryLoop σ τ α)

/-- The same exchange over another transport. -/
def onto (other : Transport ρ) : RetryLoop ρ τ α :=
  { loop with transport := other }

theorem carries_lose (memory : τ) (lost : Nat) (reason : PeerError) :
    Carries view (loop.lose memory lost reason) ((loop.onto other).lose memory lost reason) := by
  refine Carries.disconnect.bind fun _ => ?_
  have same : (loop.onto other).attempts = loop.attempts := rfl
  rw [same]
  split
  · exact (Carries.note _ _ _).bind fun _ => .pure _
  · exact .pure _

theorem carries_hear (standing : Standing τ α) (reply : Wire.Message) :
    Carries view (loop.hear standing reply) ((loop.onto other).hear standing reply) := by
  unfold hear
  have same : (loop.onto other).judge = loop.judge := rfl
  rw [same]
  obtain ⟨verdict, memory⟩ := loop.judge reply standing.memory
  cases verdict with
  | accept value => exact .pure _
  | abort reason => exact .pure _
  | reject reason => exact (Carries.note _ _ _).bind fun _ => .pure _

variable {loop}

theorem carries_step (carried : Transport.Carried view loop.transport other)
    (standing : Standing τ α) :
    Carries view (loop.step standing) ((loop.onto other).step standing) := by
  obtain ⟨memory, lost, stage⟩ := standing
  cases stage with
  | opening =>
    refine carried.ensureConnected.bind fun answer => ?_
    cases answer with
    | error reason => exact loop.carries_lose memory lost reason
    | ok => exact .pure _
  | sending =>
    refine (carried.transmit loop.request).bind fun answer => ?_
    cases answer with
    | error reason => exact loop.carries_lose memory lost reason
    | ok => exact .pure _
  | waiting =>
    refine (Carries.outside carried.poll).bind fun answer => ?_
    rcases answer with reason | (_ | reply)
    · exact loop.carries_lose memory lost reason
    · exact loop.carries_lose memory lost .timeout
    · exact loop.carries_hear _ reply
  | ended result => exact .pure _

/-- A run over the one transport is a run over the other. -/
theorem carries_run (carried : Transport.Carried view loop.transport other) (steps : Nat)
    (standing : Standing τ α) :
    Carries view (loop.run steps standing) ((loop.onto other).run steps standing) := by
  induction steps with
  | zero => exact .pure _
  | succ steps step => exact step.bind fun middle => carries_step carried middle

/-- Where an exchange ends over the one transport, it ends over the other. -/
theorem Settles.carried (carried : Transport.Carried view loop.transport other)
    {standing : Standing τ α} {session : Session σ}
    {outcome : Traced (Session σ) (Except PeerError α × τ)}
    (settled : loop.Settles standing session outcome) :
    (loop.onto other).Settles standing (session.carried view) (outcome.carried view) := by
  obtain ⟨steps, lost, reached⟩ := settled
  refine ⟨steps, lost, ?_⟩
  rw [← carries_run carried steps standing session, reached]
  rfl

end RetryLoop

namespace Client

variable {σ ρ τ α : Type} {view : σ → ρ}

/-- The second client is the first one in the world as it is seen. -/
structure Carried (view : σ → ρ) (first : Client σ) (second : Client ρ) : Prop where
  transport : Transport.Carried view first.link.toTransport second.link.toTransport
  maxRetries : first.maxRetries = second.maxRetries
  outputFile : first.outputFile = second.outputFile

theorem carries_conclude (event : UInt32)
    (answered : Except PeerError Wire.SimReply × PhotoelectronBatch) :
    Carries view (conclude event answered) (conclude event answered) := by
  obtain ⟨reason | (_ | _), out⟩ := answered
  · exact (Carries.note _ _ _).bind fun _ => .pure _
  · exact (Carries.note _ _ _).bind fun _ => .pure _
  · exact (Carries.note _ _ _).bind fun _ => .pure _

namespace Carried

variable {first : Client σ} {second : Client ρ}

theorem exchange (carried : Carried view first second) (what : String) (request : Wire.Message)
    (judge : Judge τ α) (memory : τ) :
    Carries view (first.exchange what request judge memory)
      (second.exchange what request judge memory) := by
  intro session
  have same : (first.retryLoop what request judge).onto second.link.toTransport =
      second.retryLoop what request judge := by
    simp only [retryLoop, RetryLoop.onto, carried.maxRetries]
  have settled : (second.retryLoop what request judge).Settles (.start memory)
      (session.carried view) ((first.exchange what request judge memory session).carried view) := by
    rw [← same]
    exact (first.settles_exchange what request judge memory session).carried carried.transport
  exact settled.unique (second.settles_exchange what request judge memory _)

theorem ask (carried : Carried view first second) (what : String) (request : Wire.Message)
    (verdict : Wire.Message → Verdict α) :
    Carries view (first.ask what request verdict) (second.ask what request verdict) :=
  (carried.exchange what request _ ()).bind fun _ => .pure _

theorem propagate (carried : Carried view first second) (photons : PhotonBatch)
    (out : PhotoelectronBatch) :
    Carries view (first.propagate photons out) (second.propagate photons out) := by
  intro session
  simp only [Client.propagate, Action.get_bind]
  have same : (session.carried view).phase = session.phase := rfl
  rw [same]
  split
  · exact (Carries.note _ _ _).bind (fun _ => .pure _) session
  · refine (Carries.note _ _ _).bind (fun _ => (Carries.enter _).bind fun _ => ?_) session
    refine (carried.exchange _ _ _ _).bind fun answered => ?_
    exact (Carries.enter _).bind fun _ => carries_conclude photons.event answered

theorem requestDetector (carried : Carried view first second) :
    Carries view first.requestDetector second.requestDetector := by
  refine (Carries.enter _).bind fun _ => (carried.ask _ _ _).bind fun answer => ?_
  cases answer with
  | error reason => exact (Carries.enter _).bind fun _ => .pure _
  | ok info => exact (Carries.note _ _ _).bind fun _ => fun _ => rfl

theorem start (carried : Carried view first second) : Carries view first.start second.start := by
  unfold Client.start
  rw [carried.transport.endpoint, carried.outputFile]
  refine (Carries.enter _).bind fun _ => (carried.ask _ _ _).bind fun answer => ?_
  cases answer with
  | error reason => exact (Carries.enter _).bind fun _ => .pure _
  | ok =>
    refine (Carries.note _ _ _).bind fun _ => (Carries.enter _).bind fun _ => ?_
    refine (carried.ask _ _ _).bind fun announced => ?_
    cases announced with
    | error reason => exact (Carries.note _ _ _).bind fun _ => carried.requestDetector
    | ok => exact (Carries.note _ _ _).bind fun _ => carried.requestDetector

theorem stop (carried : Carried view first second) : Carries view first.stop second.stop := by
  intro session
  simp only [Client.stop, Action.get_bind]
  have same : (session.carried view).phase = session.phase := rfl
  rw [same]
  split
  · rfl
  · refine (carried.ask _ _ _).bind (fun answer => ?_) session
    cases answer with
    | error reason =>
      exact (Carries.note _ _ _).bind fun _ => Carries.disconnect.bind fun _ => .enter _
    | ok => exact (Carries.note _ _ _).bind fun _ => Carries.disconnect.bind fun _ => .enter _

theorem positions (carried : Carried view first second) :
    Carries view first.positions second.positions := by
  intro session
  simp only [Client.positions, Action.get_bind]
  have same : (session.carried view).detector = session.detector := rfl
  rw [same]
  cases session.detector with
  | some info => rfl
  | none =>
    refine carried.start.bind (fun answer => ?_) session
    cases answer with
    | error reason => exact .pure _
    | ok info => exact .pure _

end Carried

end Client

end PhotonFerry
