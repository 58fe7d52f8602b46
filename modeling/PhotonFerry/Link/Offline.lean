import PhotonFerry.Endpoint.Broker
import PhotonFerry.Link.Basic
/-!
# A link without a network

Opening a connection to an address first needs a host and a port, and only then
a network. This link goes through the first part and finds no one in the second:
it says of every endpoint why no connection to it can be opened.
-/

namespace PhotonFerry.Link

/-- Why no connection to an endpoint without scheme can be opened. -/
def offlineReason (endpoint : String) : String :=
  match Endpoint.splitLastColon? endpoint.toList with
  | none => "invalid socket address"
  | some (host, portText) =>
    if (Numeral.parse? 16 portText).isNone then "invalid port value"
    else
      let bare := Endpoint.stripBrackets host
      match Address.ofText? bare, Endpoint.addressOf Endpoint.lookUp bare with
      | none, .error reason => reason.message
      | _, _ => "Connection refused (os error 111)"

/-- The link to an endpoint without scheme, where there is no network. -/
def offline (endpoint timeoutText : String) : Link Unit where
  endpoint := endpoint
  connect := do
    Action.debug .connection s!"Connecting to {endpoint} (timeout {timeoutText})"
    return .error (.connectionFailed s!"{endpoint}: {offlineReason endpoint}")
  send _ := return .error .connectionClosed
  poll := return .error .connectionClosed
  backlog _ := 0
  backlog_poll_lt := by
    intro world message delivered
    simp at delivered

end PhotonFerry.Link
