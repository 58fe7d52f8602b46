import PhotonFerry.Number.Digits
import PhotonFerry.Text.Quoted
/-!
# Internet addresses

Addresses of both families with their usual texts. Of an IPv6 address the first
longest run of at least two zero groups is left out when it is written, and an
address that stands for an IPv4 address ends in that address; it is read in every
form that names all eight groups.
-/

namespace PhotonFerry

/-- An IPv4 address. -/
structure AddressV4 where
  first : UInt8
  second : UInt8
  third : UInt8
  fourth : UInt8
  deriving DecidableEq, Repr

/-- An IPv6 address without a scope. -/
structure AddressV6 where
  groups : Vector UInt16 8
  deriving DecidableEq, Repr

/-- An address of either family. -/
inductive Address where
  | v4 (address : AddressV4)
  | v6 (address : AddressV6)
  deriving DecidableEq, Repr

/-- An address and a port. -/
structure SocketAddress where
  address : Address
  port : UInt16
  deriving DecidableEq, Repr

namespace Address

open Digits (readMark)

/-- Whether it is an IPv4 address. -/
def isV4 : Address → Bool
  | v4 _ => true
  | v6 _ => false

/-! ## Writing -/

/-- The text of an IPv4 address. -/
def textV4 (address : AddressV4) : String :=
  s!"{address.first.toNat}.{address.second.toNat}.{address.third.toNat}.{address.fourth.toNat}"

/-- The lengths of the zero runs that begin at each place. -/
def zeroRuns : List UInt16 → List Nat
  | [] => []
  | group :: rest =>
    let later := zeroRuns rest
    (if group = 0 then later.headD 0 + 1 else 0) :: later

/-- The place and the length of the first longest zero run; the length is 0 if
there is no zero. -/
def longestZeroRun (groups : List UInt16) : Nat × Nat :=
  let runs := zeroRuns groups
  let length := runs.foldl max 0
  (runs.findIdx (· = length), length)

/-- Groups with colons between them. -/
def textGroups (groups : List UInt16) : String :=
  ":".intercalate (groups.map fun group => Text.hexDigits group.toNat)

/-- The IPv4 address that an IPv6 address stands for. -/
def mappedV4? (groups : List UInt16) : Option AddressV4 :=
  match groups with
  | [0, 0, 0, 0, 0, 0xffff, high, low] =>
    some ⟨(high >>> 8).toUInt8, high.toUInt8, (low >>> 8).toUInt8, low.toUInt8⟩
  | _ => none

/-- The text of an IPv6 address. -/
def textV6 (address : AddressV6) : String :=
  let groups := address.groups.toList
  match mappedV4? groups with
  | some mapped => "::ffff:" ++ textV4 mapped
  | none =>
    let (place, length) := longestZeroRun groups
    if length < 2 then textGroups groups
    else textGroups (groups.take place) ++ "::" ++ textGroups (groups.drop (place + length))

/-- The text of an address. -/
def text : Address → String
  | v4 address => textV4 address
  | v6 address => textV6 address

/-! ## Reading -/

/-- Read a decimal byte of at most three digits and without leading zeros. -/
def readByte (text : List Char) : Option (UInt8 × List Char) :=
  let (digits, rest) := Digits.span 10 text
  let value := Digits.number 10 digits
  if digits.isEmpty ∨ 3 < digits.length ∨ 255 < value then none
  else if digits.head? = some 0 ∧ 1 < digits.length then none
  else some (UInt8.ofNat value, rest)

/-- Read a hexadecimal group of at most four digits. -/
def readGroup (text : List Char) : Option (UInt16 × List Char) :=
  let (digits, rest) := Digits.span 16 text
  if digits.isEmpty ∨ 4 < digits.length then none
  else some (UInt16.ofNat (Digits.number 16 digits), rest)

/-- Read an IPv4 address. -/
def readV4 (text : List Char) : Option (AddressV4 × List Char) := do
  let (first, rest) ← readByte text
  let (second, rest) ← readByte (← readMark '.' rest)
  let (third, rest) ← readByte (← readMark '.' rest)
  let (fourth, rest) ← readByte (← readMark '.' rest)
  some (⟨first, second, third, fourth⟩, rest)

/-- What a run of groups reads as. -/
structure GroupRun where
  groups : List UInt16
  /-- Whether the run ends in an IPv4 address. -/
  endsInV4 : Bool
  rest : List Char

/-- Read at most `limit` groups with colons between them; `started` says whether
a group stands before. The last two may be written as an IPv4 address. -/
def readGroups : (limit : Nat) → (started : Bool) → List Char → GroupRun
  | 0, _, text => ⟨[], false, text⟩
  | limit + 1, started, text =>
    match if started then readMark ':' text else some text with
    | none => ⟨[], false, text⟩
    | some inner =>
      match if limit = 0 then none else readV4 inner with
      | some (tail, rest) =>
        ⟨[tail.first.toUInt16 <<< 8 ||| tail.second.toUInt16,
          tail.third.toUInt16 <<< 8 ||| tail.fourth.toUInt16], true, rest⟩
      | none =>
        match readGroup inner with
        | none => ⟨[], false, text⟩
        | some (group, rest) =>
          let later := readGroups limit true rest
          { later with groups := group :: later.groups }

/-- The address with the given groups, of which there must be eight. -/
def ofGroups? (groups : List UInt16) : Option AddressV6 :=
  if size : groups.toArray.size = 8 then some ⟨⟨groups.toArray, size⟩⟩ else none

/-- Read an IPv6 address. -/
def readV6 (text : List Char) : Option (AddressV6 × List Char) := do
  let head := readGroups 8 false text
  if head.groups.length = 8 then
    some (← ofGroups? head.groups, head.rest)
  else if head.endsInV4 then none
  else
    let rest ← readMark ':' (← readMark ':' head.rest)
    let tail := readGroups (7 - head.groups.length) false rest
    let zeros := List.replicate (8 - head.groups.length - tail.groups.length) 0
    some (← ofGroups? (head.groups ++ zeros ++ tail.groups), tail.rest)

/-- The address that a whole text names. -/
def ofText? (text : List Char) : Option Address :=
  match readV4 text with
  | some (address, rest) => if rest.isEmpty then some (v4 address) else none
  | none =>
    match readV6 text with
    | some (address, rest) => if rest.isEmpty then some (v6 address) else none
    | none => none

end Address

/-- The text of an address with its port. -/
def SocketAddress.text (socket : SocketAddress) : String :=
  match socket.address with
  | .v4 _ => s!"{socket.address.text}:{socket.port.toNat}"
  | .v6 _ => s!"[{socket.address.text}]:{socket.port.toNat}"

end PhotonFerry
