import PhotonFerry.Wire.Error
/-!
# What can go wrong with a peer
-/

namespace PhotonFerry

/-- Why a request to a peer was not answered. -/
inductive PeerError where
  /-- No connection could be opened, or it broke. -/
  | connectionFailed (reason : String)
  /-- The peer closed the connection. -/
  | connectionClosed
  /-- A request could not be written. -/
  | sendFailed (reason : String)
  /-- No reply arrived in time. -/
  | timeout
  /-- Every attempt at an exchange failed. -/
  | retriesExhausted (attempts : Nat)
  /-- A reply of the right kind was wrong in itself. -/
  | malformed (reason : Wire.WireError)
  deriving DecidableEq, Repr

/-- The report of an error. -/
def PeerError.message : PeerError → String
  | connectionFailed reason => s!"Connection failed: {reason}"
  | connectionClosed => "Connection closed"
  | sendFailed reason => s!"Send failed: {reason}"
  | timeout => "Request timed out"
  | retriesExhausted attempts => s!"Retries exhausted after {attempts} attempt(s)"
  | malformed reason => s!"Malformed reply: {reason.message}"

end PhotonFerry
