import PhotonFerry.Proofs.Client.Worlds
/-!
# Watching a client

A watched transport does what the transport does and keeps a list of what it was
asked and answered. Whatever a client does over a watched transport it does
without being watched, which `Mirrors` says of an action, and it does the same
whatever calls were watched before.
-/

namespace PhotonFerry

/-- A question to a transport with its answer. -/
inductive Call where
  | connect (answer : Except PeerError Unit)
  | send (request : Wire.Message) (answer : Except PeerError Unit)
  | poll (answer : Except PeerError (Option Wire.Message))

/-- The world outside and the calls that were made so far. -/
structure Watched (σ : Type) where
  world : σ
  calls : List Call := []

/-- Act on the world and keep the answer. -/
def Watched.recording {σ α : Type} (call : α → Call) (action : Action σ α) :
    Action (Watched σ) α := fun watched =>
  let result := action watched.world
  ⟨result.value, ⟨result.state, watched.calls ++ [call result.value]⟩, result.journal⟩

/-- The transport that keeps its calls. -/
def Transport.watched {σ : Type} (transport : Transport σ) : Transport (Watched σ) where
  endpoint := transport.endpoint
  connect := Watched.recording .connect transport.connect
  send request := Watched.recording (.send request) (transport.send request)
  poll := Watched.recording .poll transport.poll

/-- The link that keeps its calls. -/
def Link.watched {σ : Type} (link : Link σ) : Link (Watched σ) where
  toTransport := link.toTransport.watched
  backlog watched := link.backlog watched.world
  backlog_poll_lt found := link.backlog_poll_lt found

/-- The client over the link that keeps its calls. -/
def Client.watched {σ : Type} (client : Client σ) : Client (Watched σ) :=
  { client with link := client.link.watched }

/-- The loop over the transport that keeps its calls. -/
def RetryLoop.watched {σ τ α : Type} (loop : RetryLoop σ τ α) : RetryLoop (Watched σ) τ α :=
  { loop with transport := loop.transport.watched }

namespace Session

variable {σ : Type}

/-- The session as it is watched from now on. -/
def watched (session : Session σ) : Session (Watched σ) :=
  { session with world := { world := session.world } }

/-- The session itself. -/
def unwatched (session : Session (Watched σ)) : Session σ :=
  { session with world := session.world.world }

/-- The calls that were made since the session is watched. -/
def calls (session : Session (Watched σ)) : List Call :=
  session.world.calls

end Session

/-- What an action leaves, apart from the calls that were watched. -/
def Traced.unwatched {σ α : Type} (result : Traced (Session (Watched σ)) α) :
    Traced (Session σ) α :=
  ⟨result.value, result.state.unwatched, result.journal⟩

/-- Watched work does what the work does unwatched. -/
def Mirrors {σ α : Type} (watched : Action (Session (Watched σ)) α)
    (plain : Action (Session σ) α) : Prop :=
  ∀ session, (watched session).unwatched = plain session.unwatched

/-- The world with calls before those that were watched. -/
def Watched.behind {σ : Type} (earlier : List Call) (watched : Watched σ) : Watched σ :=
  { watched with calls := earlier ++ watched.calls }

/-- A session is what it is when watched anew, behind the calls that were watched. -/
theorem Session.carried_behind_calls {σ : Type} (session : Session (Watched σ)) :
    session.unwatched.watched.carried (Watched.behind session.calls) = session := by
  have calls : session.calls ++ [] = session.calls := List.append_nil _
  simp only [watched, unwatched, carried, Watched.behind, calls]
  rfl

namespace Transport

variable {σ : Type} (transport : Transport σ)

/-- Watching a transport changes nothing but the calls. -/
theorem carried_watched : Carried Watched.world transport.watched transport where
  endpoint := rfl
  connect _ := rfl
  send _ _ := rfl
  poll _ := rfl

/-- What was watched before makes no difference. -/
theorem carried_behind (earlier : List Call) :
    Carried (Watched.behind earlier) transport.watched transport.watched where
  endpoint := rfl
  connect world := by simp only [watched, Watched.recording, Watched.behind, List.append_assoc]
  send request world := by
    simp only [watched, Watched.recording, Watched.behind, List.append_assoc]
  poll world := by simp only [watched, Watched.recording, Watched.behind, List.append_assoc]

end Transport

namespace RetryLoop

variable {σ τ α : Type} (loop : RetryLoop σ τ α)

/-- A watched run is a run. -/
theorem mirrors_run (steps : Nat) (standing : Standing τ α) :
    Mirrors (loop.watched.run steps standing) (loop.run steps standing) :=
  carries_run loop.transport.carried_watched steps standing

end RetryLoop

namespace Client

variable {σ τ α : Type} (client : Client σ)

theorem carried_watched : Carried Watched.world client.watched client where
  transport := client.link.toTransport.carried_watched
  maxRetries := rfl
  outputFile := rfl

theorem carried_behind (earlier : List Call) :
    Carried (Watched.behind earlier) client.watched client.watched where
  transport := client.link.toTransport.carried_behind earlier
  maxRetries := rfl
  outputFile := rfl

/-- A watched exchange is an exchange. -/
theorem mirrors_exchange (what : String) (request : Wire.Message) (judge : Judge τ α)
    (memory : τ) : Mirrors (client.watched.exchange what request judge memory)
      (client.exchange what request judge memory) :=
  client.carried_watched.exchange what request judge memory

end Client

end PhotonFerry
