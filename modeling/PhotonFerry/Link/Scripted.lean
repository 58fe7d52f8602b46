import PhotonFerry.Link.Basic
/-!
# A link that follows a script

A `Script` says in advance what every call of a link answers. It serves to
rehearse a client: nothing leaves the program, and the script keeps what the
client tried.
-/

namespace PhotonFerry

/-- What the coming calls of a link answer, and what was tried so far. -/
structure Script where
  /-- The answers to the coming connection attempts; later ones succeed. -/
  connects : List (Except PeerError Unit) := []
  /-- The answers to the coming requests, with what they make the peer say;
  later ones are accepted and stay unanswered. -/
  sends : List (Except PeerError (List (Except PeerError (Option Wire.Message)))) := []
  /-- What the next waits will find. -/
  queue : List (Except PeerError (Option Wire.Message)) := []
  /-- The number of connection attempts so far. -/
  connectCalls : Nat := 0
  /-- The requests tried so far, the last one first. -/
  tried : List Wire.Message := []

namespace Script

/-- The requests tried so far, in order. -/
def sent (script : Script) : List Wire.Message :=
  script.tried.reverse

/-- Take the next answer to a connection attempt; the queue is emptied whatever it is. -/
def connect : Action Script (Except PeerError Unit) := fun script =>
  let after := { script with
    queue := [], connects := script.connects.tail, connectCalls := script.connectCalls + 1 }
  ⟨script.connects.headD (.ok ()), after, []⟩

/-- Take the next answer to a request, and queue what the peer says to it. -/
def send (message : Wire.Message) : Action Script (Except PeerError Unit) := fun script =>
  let after := { script with sends := script.sends.tail, tried := message :: script.tried }
  match script.sends.headD (.ok []) with
  | .error reason => ⟨.error reason, after, []⟩
  | .ok polls => ⟨.ok (), { after with queue := script.queue ++ polls }, []⟩

/-- A request is added to those tried, whatever its answer. -/
@[simp] theorem sent_send (message : Wire.Message) (script : Script) :
    (send message script).state.sent = script.sent ++ [message] := by
  unfold send
  cases script.sends.headD (.ok []) <;> simp [sent]

/-- Take the next item off the queue; an empty queue stays silent. -/
def poll : Action Script (Except PeerError (Option Wire.Message)) := fun script =>
  match script.queue with
  | [] => ⟨.ok none, script, []⟩
  | next :: later => ⟨next, { script with queue := later }, []⟩

/-- The link that follows the script in its state. -/
def link (endpoint : String) : Link Script where
  endpoint := endpoint
  connect := connect
  send := send
  poll := poll
  backlog script := script.queue.length
  backlog_poll_lt := by
    intro script message delivered
    cases queue : script.queue with
    | nil => simp [poll, queue] at delivered
    | cons next later => simp [poll, queue]

end Script

end PhotonFerry
