import PhotonFerry.Link.Basic
import PhotonFerry.Wire.DetectorInfo
/-!
# Exchanges with a peer

Every request goes through one retry loop. An *attempt* opens a connection if
none is held, sends the request once and waits for a reply that the request's
judge accepts; replies for other requests are discarded and cost nothing. When
connecting, sending or waiting fails, the connection is dropped and the attempt
is spent. An *exchange* makes attempts until one ends in a verdict or the budget
is used up. A judge may keep a memory, which lives as long as the exchange.
-/

namespace PhotonFerry

/-- Where a client stands with its backend. -/
inductive Phase where
  | disconnected
  | handshaking
  | ready
  | awaitingDetectorInfo
  | awaitingReply
  | closed
  deriving DecidableEq, Repr

/-- The name of a phase in reports. -/
def Phase.name : Phase → String
  | disconnected => "Disconnected"
  | handshaking => "Handshaking"
  | ready => "Ready"
  | awaitingDetectorInfo => "AwaitingDetectorInfo"
  | awaitingReply => "AwaitingReply"
  | closed => "Closed"

/-- What a client does not change during a run. -/
structure Client (σ : Type) where
  link : Link σ
  /-- The number of attempts at an exchange; none counts as one. -/
  maxRetries : UInt32
  /-- The file name that begins a run. -/
  outputFile : String

/-- What a client changes as it works. -/
structure Session (σ : Type) where
  /-- The world outside. -/
  world : σ
  /-- Whether a connection is held. -/
  connected : Bool := false
  phase : Phase := .disconnected
  /-- The detector that the backend last described. -/
  detector : Option DetectorInfo := none
  /-- Whether a connection was ever opened. -/
  everConnected : Bool := false
  /-- The number of connections opened after the first. -/
  reconnects : Nat := 0
  /-- The number of requests sent, repeated ones included. -/
  sends : Nat := 0

/-- What a judge says of a reply. -/
inductive Verdict (α : Type) where
  | accept (value : α)
  /-- The reply answers something else; keep waiting. -/
  | reject (reason : Wire.WireError)
  /-- The reply is the right one and wrong in itself. -/
  | abort (reason : Wire.WireError)

/-- A judge of replies that keeps a memory `τ` from one reply to the next. -/
abbrev Judge (τ α : Type) := Wire.Message → τ → Verdict α × τ

/-- The judge that looks at nothing but the reply. -/
def Judge.ofReply {α : Type} (verdict : Wire.Message → Verdict α) : Judge Unit α :=
  fun reply memory => (verdict reply, memory)

/-- Why an attempt ended without an accepted reply. -/
inductive AttemptFailure where
  | lost (reason : PeerError)
  | aborted (reason : Wire.WireError)

/-- The number of attempts at an exchange under a limit; a limit of none counts as one. -/
def attemptsUnder (maxRetries : UInt32) : Nat :=
  max 1 maxRetries.toNat

/-- What is said of a lost attempt that is not the last one. -/
def lossText (what : String) (spent attempts : Nat) (reason : PeerError) : String :=
  s!"{what} attempt {spent}/{attempts} failed: {reason.message}; reconnecting"

/-- What is said of a rejected reply. -/
def discardText (reason : Wire.WireError) : String :=
  s!"Discarding reply: {reason.message}"

namespace Session

variable {σ α : Type}

/-- Act on the world outside. -/
def outside (action : Action σ α) : Action (Session σ) α :=
  Action.within Session.world (fun world session => { session with world }) action

@[simp] theorem outside_apply (action : Action σ α) (session : Session σ) :
    outside action session =
      ⟨(action session.world).value, { session with world := (action session.world).state },
        (action session.world).journal⟩ := rfl

/-- Give up the connection. -/
def disconnect : Action (Session σ) Unit :=
  Action.modify fun session => { session with connected := false }

/-- Enter a phase. -/
def enter (phase : Phase) : Action (Session σ) Unit :=
  Action.modify fun session => { session with phase }

end Session

namespace Transport

variable {σ : Type}

/-- Hold a connection, opening one if there is none. -/
def ensureConnected (transport : Transport σ) : Action (Session σ) (Except PeerError Unit) := do
  let session ← Action.get
  if session.connected then return .ok ()
  match ← Session.outside transport.connect with
  | .error reason => return .error reason
  | .ok () =>
    Action.modify fun after => { after with
      connected := true
      everConnected := true
      reconnects := if session.everConnected then session.reconnects + 1 else session.reconnects }
    if session.everConnected then
      Action.info .client s!"Reconnected to backend at {transport.endpoint}"
    return .ok ()

/-- Send a request on the connection that is held. -/
def transmit (transport : Transport σ) (request : Wire.Message) :
    Action (Session σ) (Except PeerError Unit) := do
  match ← Session.outside (transport.send request) with
  | .error reason => return .error reason
  | .ok () =>
    Action.modify fun session => { session with sends := session.sends + 1 }
    return .ok ()

section Answers

variable {transport : Transport σ} {session : Session σ} {request : Wire.Message}
  {reason : PeerError}

theorem ensureConnected_held (held : session.connected = true) :
    transport.ensureConnected session = ⟨.ok (), session, []⟩ := by
  simp only [ensureConnected, Action.get_bind, held, if_true, Action.pure_apply]

theorem ensureConnected_failed (free : session.connected = false)
    (failed : (transport.connect session.world).value = .error reason) :
    transport.ensureConnected session =
      ⟨.error reason, { session with world := (transport.connect session.world).state },
        (transport.connect session.world).journal⟩ := by
  rw [ensureConnected, Action.get_bind]
  simp only [free, Bool.false_eq_true, if_false, Action.bind_apply, Session.outside_apply,
    Traced.andThen, failed, Action.pure_apply, List.append_nil]

theorem ensureConnected_opened (free : session.connected = false)
    (opened : (transport.connect session.world).value = .ok ()) :
    transport.ensureConnected session =
      ⟨.ok (), { session with
          world := (transport.connect session.world).state
          connected := true
          everConnected := true
          reconnects := if session.everConnected then session.reconnects + 1
            else session.reconnects },
        (transport.connect session.world).journal ++ if session.everConnected then
          [⟨.info, .client, s!"Reconnected to backend at {transport.endpoint}"⟩] else []⟩ := by
  rw [ensureConnected, Action.get_bind]
  simp only [free, Bool.false_eq_true, if_false, Action.bind_apply, Session.outside_apply,
    Traced.andThen, opened]
  cases session.everConnected <;> rfl

theorem transmit_failed (failed : (transport.send request session.world).value = .error reason) :
    transport.transmit request session =
      ⟨.error reason, { session with world := (transport.send request session.world).state },
        (transport.send request session.world).journal⟩ := by
  simp only [transmit, Action.bind_apply, Session.outside_apply, Traced.andThen, failed,
    Action.pure_apply, List.append_nil]

theorem transmit_sent (sent : (transport.send request session.world).value = .ok ()) :
    transport.transmit request session =
      ⟨.ok (), { session with
          world := (transport.send request session.world).state
          sends := session.sends + 1 },
        (transport.send request session.world).journal⟩ := by
  simp only [transmit, Action.bind_apply, Session.outside_apply, Traced.andThen, sent,
    Action.modify_apply, Action.pure_apply, List.append_nil]

end Answers

end Transport

/-- Wait for the first message that the judge does not reject. -/
def Link.awaitReply {σ τ α : Type} (link : Link σ) (judge : Judge τ α) (memory : τ) :
    Action σ (Except AttemptFailure α × τ) := fun world =>
  match _found : (link.poll world).value with
  | .error reason =>
    ⟨(.error (.lost reason), memory), (link.poll world).state, (link.poll world).journal⟩
  | .ok none =>
    ⟨(.error (.lost .timeout), memory), (link.poll world).state, (link.poll world).journal⟩
  | .ok (some message) =>
    match judge message memory with
    | (.accept value, memory) =>
      ⟨(.ok value, memory), (link.poll world).state, (link.poll world).journal⟩
    | (.abort reason, memory) =>
      ⟨(.error (.aborted reason), memory), (link.poll world).state, (link.poll world).journal⟩
    | (.reject reason, memory) =>
      let later := awaitReply link judge memory (link.poll world).state
      ⟨later.value, later.state, (link.poll world).journal
        ++ ⟨.info, .client, discardText reason⟩ :: later.journal⟩
termination_by world => link.backlog world
decreasing_by exact link.backlog_poll_lt _found

/-- What a judge keeps true of its memory stays true while waiting for a reply. -/
theorem Link.memory_awaitReply {σ τ α : Type} {judge : Judge τ α} {holds : τ → Prop}
    (link : Link σ) (kept : ∀ reply memory, holds memory → holds (judge reply memory).2)
    (memory : τ) (world : σ) (before : holds memory) :
    holds (link.awaitReply judge memory world).value.2 := by
  fun_induction Link.awaitReply link judge memory world with
  | case1 => exact before
  | case2 => exact before
  | case3 memory world reply _ value after judged =>
    simpa [judged] using kept reply memory before
  | case4 memory world reply _ reason after judged =>
    simpa [judged] using kept reply memory before
  | case5 memory world reply _ reason after judged later step =>
    exact step (by simpa [judged] using kept reply memory before)

namespace Client

variable {σ τ α : Type}

/-- The number of attempts at an exchange. -/
def attempts (client : Client σ) : Nat :=
  attemptsUnder client.maxRetries

/-- Send a request once and wait for its reply. -/
def attempt (client : Client σ) (request : Wire.Message) (judge : Judge τ α) (memory : τ) :
    Action (Session σ) (Except AttemptFailure α × τ) := do
  match ← client.link.ensureConnected with
  | .error reason => return (.error (.lost reason), memory)
  | .ok () =>
    match ← client.link.transmit request with
    | .error reason => return (.error (.lost reason), memory)
    | .ok () => Session.outside (client.link.awaitReply judge memory)

/-- Make an attempt, and if it is lost give up the connection and go on with `next`. -/
def attemptOr (client : Client σ) (request : Wire.Message) (judge : Judge τ α)
    (next : PeerError → τ → Action (Session σ) (Except PeerError α × τ)) (memory : τ) :
    Action (Session σ) (Except PeerError α × τ) := do
  match ← client.attempt request judge memory with
  | (.ok value, memory) => return (.ok value, memory)
  | (.error (.aborted reason), memory) => return (.error (.malformed reason), memory)
  | (.error (.lost reason), memory) =>
    Session.disconnect
    next reason memory

/-- Make an attempt and at most `left` further ones. -/
def exchangeFrom (client : Client σ) (what : String) (request : Wire.Message)
    (judge : Judge τ α) : (left : Nat) → (memory : τ) →
    Action (Session σ) (Except PeerError α × τ)
  | 0 => client.attemptOr request judge fun _ memory =>
    return (.error (.retriesExhausted client.attempts), memory)
  | left + 1 => client.attemptOr request judge fun reason memory => do
    Action.warn .client (lossText what (client.attempts - (left + 1)) client.attempts reason)
    client.exchangeFrom what request judge left memory

/-- Send a request until it is answered or the attempts are used up. -/
def exchange (client : Client σ) (what : String) (request : Wire.Message)
    (judge : Judge τ α) (memory : τ) : Action (Session σ) (Except PeerError α × τ) :=
  client.exchangeFrom what request judge (client.attempts - 1) memory

section Memory

variable {request : Wire.Message} {judge : Judge τ α} {holds : τ → Prop}

theorem memory_attempt (client : Client σ)
    (kept : ∀ reply memory, holds memory → holds (judge reply memory).2)
    (memory : τ) (session : Session σ) (before : holds memory) :
    holds (client.attempt request judge memory session).value.2 := by
  simp only [attempt, Action.bind_value]
  cases (client.link.ensureConnected session).value with
  | error reason => exact before
  | ok =>
    simp only [Action.bind_value]
    cases (client.link.transmit request _).value with
    | error reason => exact before
    | ok => exact client.link.memory_awaitReply kept memory _ before

theorem memory_attemptOr (client : Client σ)
    {next : PeerError → τ → Action (Session σ) (Except PeerError α × τ)}
    (kept : ∀ reply memory, holds memory → holds (judge reply memory).2)
    (later : ∀ reason memory session, holds memory → holds (next reason memory session).value.2)
    (memory : τ) (session : Session σ) (before : holds memory) :
    holds (client.attemptOr request judge next memory session).value.2 := by
  have attempted : holds (client.attempt request judge memory session).value.2 :=
    client.memory_attempt kept memory session before
  simp only [attemptOr, Action.bind_value]
  match found : (client.attempt request judge memory session).value with
  | (.ok value, after) => simpa [found] using attempted
  | (.error (.aborted reason), after) => simpa [found] using attempted
  | (.error (.lost reason), after) =>
    rw [found] at attempted
    exact later reason after _ attempted

/-- What a judge keeps true of its memory stays true through an exchange. -/
theorem memory_exchangeFrom (client : Client σ) {what : String}
    (kept : ∀ reply memory, holds memory → holds (judge reply memory).2) (left : Nat)
    (memory : τ) (session : Session σ) (before : holds memory) :
    holds (client.exchangeFrom what request judge left memory session).value.2 := by
  induction left generalizing memory session with
  | zero =>
    exact client.memory_attemptOr kept (fun _ _ _ attempted => attempted) memory session before
  | succ left step =>
    refine client.memory_attemptOr kept (fun reason after session attempted => ?_)
      memory session before
    exact step after _ attempted

end Memory

/-- Send a request until it has a reply that `verdict` accepts or the attempts are used up. -/
def ask (client : Client σ) (what : String) (request : Wire.Message)
    (verdict : Wire.Message → Verdict α) : Action (Session σ) (Except PeerError α) := do
  let (answer, ()) ← client.exchange what request (Judge.ofReply verdict) ()
  return answer

end Client

end PhotonFerry
