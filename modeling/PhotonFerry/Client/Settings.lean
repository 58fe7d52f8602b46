import PhotonFerry.Client.Exchange
import PhotonFerry.Endpoint.Broker
import PhotonFerry.Link.Offline
import PhotonFerry.Number.Fixed
/-!
# Client settings

What a user chooses for a client, and the client that it gives. A broker is
resolved here, once; every later connection goes to the address it had then.
-/

namespace PhotonFerry

/-- The text of a time span of whole milliseconds, in the largest unit that it fills. -/
def millisecondsText (span : Nat) : String :=
  if span = 0 then "0ns"
  else if span < 1000 then s!"{span}ms"
  else
    let fraction := (Fixed.padded 3 (span % 1000)).reverse.dropWhile (· = '0') |>.reverse
    let shown := if fraction.isEmpty then "" else "." ++ String.ofList fraction
    s!"{span / 1000}{shown}s"

/-- Connection and retry settings of a run; times are in milliseconds. -/
structure ClientSettings where
  endpoint : String := "tcp://127.0.0.1:5554"
  /-- Whether the endpoint is a broker to be resolved first. -/
  useBroker : Bool := false
  /-- How long to wait for each reply. -/
  timeout : Nat := 30000
  connectTimeout : Nat := 5000
  maxRetries : UInt32 := 3
  /-- The file name that begins a run. -/
  outputFile : String := ""
  deriving DecidableEq, Repr

namespace ClientSettings

/-- The client for some link. -/
def clientOver {σ : Type} (settings : ClientSettings) (link : Link σ) : Client σ where
  link := link
  maxRetries := settings.maxRetries
  outputFile := settings.outputFile

/-- The text of the address that the endpoint stands for. -/
def address {σ : Type} (settings : ClientSettings) :
    Action σ (Except Endpoint.DiscoveryError String) :=
  if settings.useBroker then do
    match ← Endpoint.resolveBroker settings.endpoint with
    | .ok socket => return .ok socket.text
    | .error reason => return .error reason
  else return .ok (Endpoint.normalize settings.endpoint)

/-- The client for the endpoint. Nothing is sent yet. -/
def connect {σ : Type} (settings : ClientSettings) :
    Action σ (Except Endpoint.DiscoveryError (Client Unit)) := do
  match ← settings.address with
  | .error reason => return .error reason
  | .ok address =>
    let link := Link.offline address (millisecondsText settings.connectTimeout)
    return .ok (settings.clientOver link)

end ClientSettings

/-- Make ready for connections. -/
def openContext {σ : Type} : Action σ Unit :=
  Action.debug .context "Offload context created (current-thread runtime)"

end PhotonFerry
