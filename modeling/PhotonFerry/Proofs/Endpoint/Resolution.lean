import PhotonFerry.Proofs.Endpoint.Parts
import PhotonFerry.Proofs.Endpoint.Spelling
/-!
# Endpoints that name addresses

An endpoint whose host is an address needs no lookup: the text of an address with a port,
with or without a scheme, leads to that address and that port, whatever names are known.
-/

namespace PhotonFerry.Endpoint

open Address (IsAddressChar)

variable {σ : Type} {lookUp : NameLookup} {endpoint : String} {host : List Char} {port : UInt16}

/-! ## What a resolution comes to -/

/-- A host that is an address is not looked up. -/
theorem resolveBy_of_address (lookUp : NameLookup) {address : Address}
    (split : splitHostPort? (normalize endpoint) = some (host, port))
    (names : Address.ofText? host = some address) :
    (resolveBy lookUp endpoint : Action σ _) = pure (.ok ⟨address, port⟩) := by
  rw [resolveBy, split]
  simp only [names]

/-- What comes of an endpoint, apart from what is noted on the way. -/
theorem resolveBy_value (lookUp : NameLookup) (endpoint : String) (state : σ) :
    (resolveBy lookUp endpoint state).value =
      match splitHostPort? (normalize endpoint) with
      | none => .error ⟨endpoint, .malformed⟩
      | some (host, port) =>
        match Address.ofText? host, addressOf lookUp host with
        | some address, _ => .ok ⟨address, port⟩
        | none, .error reason => .error ⟨endpoint, .lookup reason⟩
        | none, .ok address => .ok ⟨address, port⟩ := by
  rw [resolveBy]
  cases splitHostPort? (normalize endpoint) with
  | none => rfl
  | some parts =>
    obtain ⟨host, port⟩ := parts
    cases names : Address.ofText? host with
    | some address => simp [names]
    | none => cases found : addressOf lookUp host <;> simp [names, found]

/-- An endpoint leads to the address that its host is, or else the one that is found for it,
and to its port. -/
theorem resolveBy_eq_ok_iff {socket : SocketAddress} (state : σ) :
    (resolveBy lookUp endpoint state).value = .ok socket ↔
      ∃ host, splitHostPort? (normalize endpoint) = some (host, socket.port) ∧
        (Address.ofText? host = some socket.address ∨
          Address.ofText? host = none ∧ addressOf lookUp host = .ok socket.address) := by
  obtain ⟨address, port⟩ := socket
  rw [resolveBy_value]
  cases splitHostPort? (normalize endpoint) with
  | none => simp
  | some parts =>
    obtain ⟨host, behind⟩ := parts
    simp only [Option.some.injEq, Prod.mk.injEq, and_assoc, exists_eq_left']
    cases Address.ofText? host with
    | some other => simp [and_comm]
    | none => cases addressOf lookUp host <;> simp [and_comm]

/-- An error names the endpoint as it was given. -/
theorem endpoint_of_resolveBy_error {error : DiscoveryError} {state : σ}
    (failed : (resolveBy lookUp endpoint state).value = .error error) :
    error.endpoint = endpoint := by
  rw [resolveBy_value] at failed
  grind

/-! ## Texts of addresses with ports -/

/-- The text of an address with a port ends in a colon and the port; what stands before is
the address, perhaps in brackets. -/
theorem exists_host_of_text (socket : SocketAddress) :
    ∃ host, socket.text.toList = host ++ ':' :: Nat.toDigits 10 socket.port.toNat ∧
      stripBrackets host = socket.address.text.toList ∧
      ∀ char ∈ host, IsAddressChar char ∨ char = '[' ∨ char = ']' := by
  have chars := (Address.written_of_ofText? (Address.ofText?_text socket.address)).1
  obtain ⟨address, port⟩ := socket
  have itself (text : String) : toString text = text := rfl
  cases address with
  | v4 address =>
    refine ⟨(Address.v4 address).text.toList, ?_, stripBrackets_of_head? fun bracket => ?_,
      fun char member => .inl (chars char member)⟩
    · simp [SocketAddress.text, itself]
    · exact absurd (chars '[' (List.mem_of_head? bracket)) (by decide)
  | v6 address =>
    refine ⟨'[' :: (Address.v6 address).text.toList ++ [']'], ?_, stripBrackets_bracketed _, ?_⟩
    · simp [SocketAddress.text, itself]
    · simpa [or_imp, forall_and] using fun char member => .inl (chars char member)

/-- The text of an address with a port has no scheme. -/
theorem normalize_text (socket : SocketAddress) : normalize socket.text = socket.text := by
  obtain ⟨host, written, -, chars⟩ := exists_host_of_text socket
  refine normalize_of_head? fun letter => ?_
  rw [written] at letter
  cases host with
  | nil => exact absurd letter (by simp)
  | cons char host =>
    obtain rfl : char = 't' := by simpa using letter
    exact absurd (chars 't' List.mem_cons_self) (by decide)

/-- The text of an address with a port is split into the address and the port. -/
theorem splitHostPort?_text (socket : SocketAddress) :
    splitHostPort? socket.text = some (socket.address.text.toList, socket.port) := by
  obtain ⟨host, written, bare, -⟩ := exists_host_of_text socket
  refine splitHostPort?_eq_some_iff.mpr ⟨host, _, written, fun colon => ?_, bare, fun empty => ?_,
    Numeral.parse?_toDigits socket.port.toNat_lt⟩
  · have digit := Nat.isDigit_of_mem_toDigits (by decide) (by decide) colon
    exact absurd digit (by decide)
  · have read := Address.ofText?_text socket.address
    have nothing : Address.ofText? [] = none := by decide
    rw [empty, nothing] at read
    exact nomatch read

/-- The text of an address with a port leads to that address and that port, with or without
a scheme, and nothing is looked up or noted. -/
theorem address_texts_resolve (lookUp : NameLookup) (socket : SocketAddress) :
    (resolveBy lookUp socket.text : Action σ _) = pure (.ok socket) ∧
      (resolveBy lookUp (scheme ++ socket.text) : Action σ _) = pure (.ok socket) := by
  have split := splitHostPort?_text socket
  have names := Address.ofText?_text socket.address
  constructor
  · exact resolveBy_of_address lookUp ((normalize_text socket).symm ▸ split) names
  · exact resolveBy_of_address lookUp ((normalize_scheme socket.text).symm ▸ split) names

end PhotonFerry.Endpoint
