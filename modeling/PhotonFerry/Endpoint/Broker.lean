import PhotonFerry.Endpoint.Address
import PhotonFerry.Journal
import PhotonFerry.Number.Numeral
import PhotonFerry.Number.Word
/-!
# Endpoints and brokers

An endpoint is `host:port` behind an optional scheme. A broker is an endpoint
whose host is looked up once, before the first connection; an address in place of
a name needs no lookup, and of the addresses of a name an IPv4 address is preferred.
Any lookup of names will do. The one here knows the names that a machine answers
for by itself, addresses in their old spellings, and IPv6 addresses with a zone,
which is checked and left out; every other name is unknown.
-/

namespace PhotonFerry.Endpoint

/-- The scheme that an endpoint may begin with. -/
def scheme : String := "tcp://"

/-- What follows a given beginning. -/
def stripFront? (front text : List Char) : Option (List Char) :=
  if front.isPrefixOf text then some (text.drop front.length) else none

/-- What precedes a given end. -/
def stripEnd? (last text : List Char) : Option (List Char) :=
  if last.isSuffixOf text then some (text.take (text.length - last.length)) else none

/-- An endpoint without its scheme. -/
def normalize (endpoint : String) : String :=
  match stripFront? scheme.toList endpoint.toList with
  | some rest => String.ofList rest
  | none => endpoint

/-- The parts of a text before and after its last colon. -/
def splitLastColon? (text : List Char) : Option (List Char × List Char) :=
  let after := (text.reverse.takeWhile (· ≠ ':')).reverse
  if after.length = text.length then none
  else some (text.take (text.length - after.length - 1), after)

/-- A host without the brackets around it. -/
def stripBrackets (host : List Char) : List Char :=
  ((stripFront? ['['] host).bind (stripEnd? [']'])).getD host

/-- The host and the port of an endpoint without scheme. -/
def splitHostPort? (endpoint : String) : Option (List Char × UInt16) := do
  let (host, portText) ← splitLastColon? endpoint.toList
  let port ← Numeral.parse? 16 portText
  let bare := stripBrackets host
  if bare.isEmpty then none else some (bare, UInt16.ofNat port)

/-- Why a host has no address. -/
inductive LookupError where
  | nulByte
  | unknownName
  /-- The name is known, but nothing has it. -/
  | noAddress
  deriving DecidableEq, Repr

/-- The report of an error. -/
def LookupError.message : LookupError → String
  | nulByte => "data provided contains a nul byte"
  | unknownName => "failed to lookup address information: Name or service not known"
  | noAddress => "no addresses returned"

/-- Where to find the addresses of a host name. -/
abbrev NameLookup := List Char → Except LookupError (List Address)

/-- Why an endpoint has no address. -/
inductive DiscoveryReason where
  | malformed
  | lookup (reason : LookupError)
  deriving DecidableEq, Repr

/-- An endpoint, as given, for which no address was found. -/
structure DiscoveryError where
  endpoint : String
  reason : DiscoveryReason
  deriving DecidableEq, Repr

/-- The report of an error. -/
def DiscoveryError.message (error : DiscoveryError) : String :=
  let reason :=
    match error.reason with
    | .malformed => "expected host:port"
    | .lookup reason => reason.message
  s!"Failed to resolve backend endpoint {error.endpoint}: {reason}"

/-- Read a number that shows its radix by its beginning. -/
def readRadixNumber? (text : List Char) : Option Nat :=
  let (radix, digits) :=
    match text with
    | '0' :: 'x' :: rest => (16, rest)
    | '0' :: 'X' :: rest => (16, rest)
    | '0' :: rest => (8, '0' :: rest)
    | other => (10, other)
  let (values, rest) := Digits.span radix digits
  if values.isEmpty ∨ !rest.isEmpty then none
  else some (Digits.number radix values)

/-- The number that numbers for single bytes and a last number for all the other
bytes of an IPv4 address stand for. -/
def joinOldParts? (bytesLeft : Nat) : List Nat → Option Nat
  | [] => none
  | [last] => if last < twoTo (8 * bytesLeft) then some last else none
  | part :: rest =>
    if part < 256 ∧ 1 < bytesLeft then
      (joinOldParts? (bytesLeft - 1) rest).map (part * twoTo (8 * (bytesLeft - 1)) + ·)
    else none

/-- The address that a text names in one of the old spellings of IPv4. -/
def oldAddress? (text : List Char) : Option AddressV4 := do
  let parts ← (text.splitOn '.').mapM readRadixNumber?
  let value ← joinOldParts? 4 parts
  some ⟨UInt8.ofNat (value / twoTo 24), UInt8.ofNat (value / twoTo 16),
    UInt8.ofNat (value / twoTo 8), UInt8.ofNat value⟩

/-- Whether an IPv6 address is bound to one link or one machine, so that
interfaces are its zones: the link-local addresses, and the groups of such reach. -/
def isLinkBound (address : AddressV6) : Bool :=
  let head := address.groups.head
  head &&& 0xffc0 = 0xfe80 || head &&& 0xff0f = 0xff01 || head &&& 0xff0f = 0xff02

/-- The interface that every machine has. -/
def loopbackInterface : String := "lo"

/-- Whether a text is a zone of an address: an unsigned number of 32 bits, or an
interface if the address is bound to a link. -/
def isZoneOf (address : AddressV6) (zone : List Char) : Bool :=
  (!zone.isEmpty && zone.all Char.isDigit && Word.isUnsigned 32 (Decimal.digitsValue zone))
    || (isLinkBound address && String.ofList zone = loopbackInterface)

/-- The address that a text names together with a zone. -/
def zonedAddress? (text : List Char) : Option AddressV6 := do
  let host := text.takeWhile (· ≠ '%')
  let (address, rest) ← Address.readV6 host
  if rest.isEmpty && isZoneOf address (text.drop (host.length + 1)) then some address else none

/-- The addresses of a host name. -/
def lookUp : NameLookup := fun host =>
  if host.contains '\x00' then .error .nulByte
  else if (String.ofList host).toLower = "localhost" then .ok [.v4 ⟨127, 0, 0, 1⟩]
  else
    match oldAddress? host, zonedAddress? host with
    | some address, _ => .ok [.v4 address]
    | none, some address => .ok [.v6 address]
    | none, none => .error .unknownName

/-- Of some addresses the first of IPv4, or else the first. -/
def preferred? (addresses : List Address) : Option Address :=
  (addresses.find? Address.isV4).or addresses.head?

/-- The address of a host name that is looked up. -/
def addressOf (lookUp : NameLookup) (host : List Char) : Except LookupError Address := do
  match preferred? (← lookUp host) with
  | some address => .ok address
  | none => .error .noAddress

/-- The address of a broker's backend, with any lookup of names. -/
def resolveBy {σ : Type} (lookUp : NameLookup) (endpoint : String) :
    Action σ (Except DiscoveryError SocketAddress) :=
  match splitHostPort? (normalize endpoint) with
  | none => return .error ⟨endpoint, .malformed⟩
  | some (host, port) =>
    match Address.ofText? host with
    | some address => return .ok ⟨address, port⟩
    | none => do
      Action.debug .discovery s!"Looking up broker host {String.ofList host}"
      match addressOf lookUp host with
      | .error reason => return .error ⟨endpoint, .lookup reason⟩
      | .ok address =>
        let socket : SocketAddress := ⟨address, port⟩
        Action.info .discovery s!"Broker {endpoint} resolved to backend {socket.text}"
        return .ok socket

/-- The address of a broker's backend. -/
def resolveBroker {σ : Type} (endpoint : String) :
    Action σ (Except DiscoveryError SocketAddress) :=
  resolveBy lookUp endpoint

end PhotonFerry.Endpoint
