import PhotonFerry.Journal
import PhotonFerry.Link.Error
import PhotonFerry.Wire.Message
/-!
# Links to a peer

A `Transport` is what a client may do to reach its peer: open a connection, write
a request, wait for the next message. Everything outside the client, the peer and
the network included, is a state `σ` that these actions change, and what they
answer is arbitrary. A `Link` is a transport with one law: every message that is
delivered shortens the backlog, so that waiting for the right reply comes to an
end.
-/

namespace PhotonFerry

/-- The ways to reach a peer, over a state `σ` of the world outside. -/
structure Transport (σ : Type) where
  /-- The name of the peer in journals. -/
  endpoint : String
  /-- Open a new connection; whatever the last one still held is gone. -/
  connect : Action σ (Except PeerError Unit)
  /-- Write one request on the open connection. -/
  send : Wire.Message → Action σ (Except PeerError Unit)
  /-- Wait for the next message; none if nothing arrives in time. -/
  poll : Action σ (Except PeerError (Option Wire.Message))

/-- A transport on which only so many messages arrive one after the other. -/
structure Link (σ : Type) extends Transport σ where
  /-- A bound on the messages that can still arrive on the open connection. -/
  backlog : σ → Nat
  /-- A delivered message is no longer in the backlog. -/
  backlog_poll_lt : ∀ {world : σ} {message : Wire.Message},
    (poll world).value = .ok (some message) → backlog (poll world).state < backlog world

end PhotonFerry
