import PhotonFerry.Proofs.Endpoint.Resolution
/-!
# Addresses without a port

An address in brackets and an IPv4 address without a port are no endpoints. An IPv6 address
without brackets is taken for one if it ends like one: if what stands before its last colon
is an address by itself and what stands behind is a port. Otherwise nothing is found.
-/

namespace PhotonFerry.Endpoint

open Address (IsAddressChar)

variable {σ : Type} {lookUp : NameLookup} {endpoint : String} {literal : List Char}

/-- A lookup in which names have no colons: it finds nothing for a host with a colon that is
not an address, not even one with a zone. -/
def NamesLackColons (lookUp : NameLookup) : Prop :=
  ∀ host addresses, ':' ∈ host → '%' ∉ host → Address.ofText? host = none →
    lookUp host = .ok addresses → addresses = []

/-- What is not found is an error. -/
theorem NamesLackColons.addressOf (lack : NamesLackColons lookUp) {host : List Char}
    (colon : ':' ∈ host) (zoneless : '%' ∉ host) (nameless : Address.ofText? host = none) :
    ∃ reason, addressOf lookUp host = .error reason := by
  cases found : lookUp host with
  | error reason => exact ⟨reason, by rw [Endpoint.addressOf, found]; rfl⟩
  | ok addresses =>
    obtain rfl := lack host addresses colon zoneless nameless found
    exact ⟨.noAddress, by rw [Endpoint.addressOf, found]; rfl⟩

/-- An address ends like an endpoint: before its last colon stands another address, and
behind it the digits of a port. -/
def EndsLikePort (literal : List Char) (socket : SocketAddress) : Prop :=
  ∃ front last, literal = front ++ ':' :: last ∧ Address.ofText? front = some socket.address ∧
    last ≠ [] ∧ last.all Char.isDigit = true ∧ Decimal.digitsValue last = socket.port.toNat

/-- Digits have no colon. -/
theorem colonless_of_isDigit {last : List Char} (digits : last.all Char.isDigit = true) :
    ':' ∉ last := fun colon =>
  absurd (List.all_eq_true.mp digits ':' colon) (by decide)

/-- What stands in brackets without a port is no endpoint. -/
theorem splitHostPort?_bracketed {inner : List Char}
    (written : endpoint.toList = '[' :: inner ++ [']']) : splitHostPort? endpoint = none := by
  refine Option.eq_none_iff_forall_ne_some.mpr fun ⟨bare, port⟩ split => ?_
  obtain ⟨host, last, parts, -, -, -, parsed⟩ := splitHostPort?_eq_some_iff.mp split
  have closing : (host ++ ':' :: last).getLast? = some ']' := by
    rw [← parts, written, List.getLast?_concat]
  cases last with
  | nil => exact absurd closing (by simp)
  | cons char last =>
    have bracket : ']' ∈ char :: last := List.mem_of_getLast? (by simpa using closing)
    exact absurd (Numeral.eq_plus_or_isDigit parsed ']' bracket) (by decide)

/-- A text of characters of addresses is split at its last colon if a host stands before it
and the digits of a port behind it. -/
theorem splitHostPort?_eq_some_iff_of_chars {front : List Char} {port : UInt16}
    (chars : ∀ char ∈ endpoint.toList, IsAddressChar char) :
    splitHostPort? endpoint = some (front, port) ↔
      ∃ last, endpoint.toList = front ++ ':' :: last ∧ front ≠ [] ∧ last ≠ [] ∧
        last.all Char.isDigit = true ∧ Decimal.digitsValue last = port.toNat := by
  have plain {front last : List Char} (parts : endpoint.toList = front ++ ':' :: last) :
      stripBrackets front = front ∧ '+' ∉ last := by
    rw [parts] at chars
    refine ⟨stripBrackets_of_head? fun bracket => ?_, fun plus => ?_⟩
    · exact absurd (chars '[' (List.mem_append_left _ (List.mem_of_head? bracket))) (by decide)
    · exact absurd (chars '+' (List.mem_append_right _ (List.mem_cons_of_mem _ plus))) (by decide)
  rw [splitHostPort?_eq_some_iff]
  constructor
  case mp =>
    rintro ⟨host, last, parts, -, rfl, nonempty, parsed⟩
    obtain ⟨bare, plusless⟩ := plain parts
    obtain ⟨some_digit, digits, value, -⟩ :=
      (Numeral.parse?_eq_some_iff_of_notMem plusless).mp parsed
    exact ⟨last, bare.symm ▸ parts, nonempty, some_digit, digits, value⟩
  case mpr =>
    rintro ⟨last, parts, nonempty, some_digit, digits, value⟩
    obtain ⟨bare, plusless⟩ := plain parts
    exact ⟨front, last, parts, colonless_of_isDigit digits, bare, nonempty,
      (Numeral.parse?_eq_some_iff_of_notMem plusless).mpr
        ⟨some_digit, digits, value, port.toNat_lt⟩⟩

/-- Digits of a port are not all that an address has colons for. -/
theorem colon_mem_of_names {address : Address} (names : Address.ofText? literal = some address)
    {front last : List Char} (parts : literal = front ++ ':' :: last)
    (digits : last.all Char.isDigit = true) : ':' ∈ front := by
  have colons := (Address.written_of_ofText? names).2
  have none_behind : last.count ':' = 0 :=
    List.count_eq_zero_of_not_mem (colonless_of_isDigit digits)
  rw [parts, List.count_append, List.count_cons_self, none_behind] at colons
  refine List.one_le_count_iff.mp ?_
  split at colons <;> omega

/-- An address without a port leads somewhere exactly if it ends like an endpoint. -/
theorem resolveBy_literal_eq_ok_iff (lack : NamesLackColons lookUp) {address : Address}
    (names : Address.ofText? literal = some address) (bare : (normalize endpoint).toList = literal)
    {socket : SocketAddress} (state : σ) :
    (resolveBy lookUp endpoint state).value = .ok socket ↔ EndsLikePort literal socket := by
  have chars := (Address.written_of_ofText? names).1
  rw [resolveBy_eq_ok_iff]
  simp only [splitHostPort?_eq_some_iff_of_chars (bare ▸ chars), bare]
  constructor
  case mp =>
    rintro ⟨front, ⟨last, parts, -, some_digit, digits, value⟩, named | ⟨nameless, found⟩⟩
    · exact ⟨front, last, parts, named, some_digit, digits, value⟩
    -- what stands before the port is a name with a colon
    · have zoneless : '%' ∉ front := fun percent =>
        absurd (chars '%' (parts ▸ List.mem_append_left _ percent)) (by decide)
      obtain ⟨reason, failed⟩ :=
        lack.addressOf (colon_mem_of_names names parts digits) zoneless nameless
      rw [failed] at found
      exact nomatch found
  case mpr =>
    rintro ⟨front, last, parts, named, some_digit, digits, value⟩
    have nonempty : front ≠ [] :=
      List.ne_nil_of_mem (colon_mem_of_names names parts digits)
    exact ⟨front, ⟨last, parts, nonempty, some_digit, digits, value⟩, .inl named⟩

/-! ## The names of a machine -/

/-- A text of digits of a radix has no colon. -/
theorem colonless_of_span {radix : Nat} {text : List Char} (le : radix ≤ 16)
    (whole : (Digits.span radix text).2 = []) : ':' ∉ text := by
  intro colon
  have digit := List.dropWhile_eq_nil_iff.mp whole ':' colon
  exact absurd (Digits.isDigitOf_mono le digit) (by decide)

/-- A number that shows its radix has no colon. -/
theorem colonless_of_readRadixNumber? {text : List Char} {number : Nat}
    (read : readRadixNumber? text = some number) : ':' ∉ text := by
  rw [readRadixNumber?.eq_def] at read
  split at read
  case h_1 _ radix digits beginning =>
    simp only [Option.ite_none_left_eq_some, not_or, Bool.not_eq_true', Bool.not_eq_false,
      List.isEmpty_iff] at read
    have whole := read.1.2
    split at beginning <;> cases beginning
    case h_1 => simpa using colonless_of_span (by decide) whole
    case h_2 => simpa using colonless_of_span (by decide) whole
    case h_3 => simpa using colonless_of_span (by decide) whole
    case h_4 => exact colonless_of_span (by decide) whole

/-- Numbers that show their radix have no colons, nor have the points between them. -/
theorem colonless_of_readRadixNumbers {parts : List (List Char)} {numbers : List Nat}
    (read : parts.mapM readRadixNumber? = some numbers) : ':' ∉ ['.'].intercalate parts := by
  induction parts generalizing numbers with
  | nil => simp
  | cons part parts ih =>
    simp only [List.mapM_cons, Option.bind_eq_bind, Option.bind_eq_some_iff] at read
    obtain ⟨number, first, others, rest, -⟩ := read
    have colonless := colonless_of_readRadixNumber? first
    cases parts with
    | nil => simpa using colonless
    | cons next parts => simpa [List.intercalate_cons_cons, colonless] using ih rest

/-- An address in an old spelling has no colon. -/
theorem colonless_of_oldAddress? {text : List Char} {address : AddressV4}
    (read : oldAddress? text = some address) : ':' ∉ text := by
  simp only [oldAddress?, Option.bind_eq_bind, Option.bind_eq_some_iff] at read
  obtain ⟨numbers, parts, -⟩ := read
  have joined : ['.'].intercalate (text.splitOn '.') = text := List.intercalate_splitOn '.'
  exact joined ▸ colonless_of_readRadixNumbers parts

/-- Without a zone there is no address with a zone. -/
theorem zonedAddress?_eq_none {text : List Char} (zoneless : '%' ∉ text) :
    zonedAddress? text = none := by
  have host : text.takeWhile (· ≠ '%') = text := List.takeWhile_eq_self_iff.mpr fun char member =>
    decide_eq_true fun percent => zoneless (percent ▸ member)
  have nowhere (address : AddressV6) : isZoneOf address [] = false := by
    simp [isZoneOf, loopbackInterface]
  have behind : text.drop (text.length + 1) = [] := List.drop_eq_nil_of_le (Nat.le_succ _)
  rw [zonedAddress?, host, behind]
  simp [nowhere]

/-- A machine by itself answers for no name with a colon. -/
theorem namesLackColons_lookUp : NamesLackColons Endpoint.lookUp := by
  intro host addresses colon zoneless _ found
  have remote : ¬ (String.ofList host).toLower = "localhost" := by
    intro local_name
    have lower : ((String.ofList host).map Char.toLower).toList = host.map Char.toLower := by
      rw [String.toList_map, String.toList_ofList]
    have lowered : ':' ∈ (String.ofList host).toLower.toList :=
      lower ▸ List.mem_map_of_mem colon
    rw [local_name] at lowered
    exact absurd lowered (by decide)
  have modern : oldAddress? host = none := Option.eq_none_iff_forall_ne_some.mpr
    fun _ read => colonless_of_oldAddress? read colon
  have unknown : Endpoint.lookUp host =
      if host.contains '\x00' then .error .nulByte else .error .unknownName := by
    simp only [lookUp, if_neg remote, modern, zonedAddress?_eq_none zoneless]
  rw [unknown] at found
  split at found <;> cases found

/-! ## Addresses without a port -/

/-- What becomes of an address without a port. In brackets it is refused, and so is every IPv4
address. An IPv6 address without brackets leads somewhere exactly if it ends like an endpoint,
and then to the address before its last colon; otherwise the error names the endpoint as it
was given. -/
theorem missing_port_decided (lack : NamesLackColons lookUp) {address : Address}
    (names : Address.ofText? literal = some address) (endpoint : String) (state : σ) :
    let resolved := (resolveBy lookUp endpoint state).value
    ((normalize endpoint).toList = '[' :: literal ++ [']'] →
      resolved = .error ⟨endpoint, .malformed⟩) ∧
    ((normalize endpoint).toList = literal →
      (address.isV4 = true → resolved = .error ⟨endpoint, .malformed⟩) ∧
      (∀ socket, resolved = .ok socket ↔ EndsLikePort literal socket) ∧
      ((∀ socket, ¬ EndsLikePort literal socket) →
        ∃ reason, resolved = .error ⟨endpoint, reason⟩)) := by
  refine ⟨fun bracketed => ?_, fun bare => ⟨fun v4 => ?_, fun socket =>
    resolveBy_literal_eq_ok_iff lack names bare state, fun other => ?_⟩⟩
  case refine_1 => rw [resolveBy_value, splitHostPort?_bracketed bracketed]
  case refine_2 =>
    have colons := (Address.written_of_ofText? names).2
    rw [if_pos v4, ← bare, List.count_eq_zero] at colons
    rw [resolveBy_value, splitHostPort?_of_notMem colons]
  case refine_3 =>
    cases resolved : (resolveBy lookUp endpoint state).value with
    | ok socket =>
      exact absurd ((resolveBy_literal_eq_ok_iff lack names bare state).mp resolved) (other socket)
    | error error => exact ⟨error.reason, by rw [← endpoint_of_resolveBy_error resolved]⟩

/-- An address in brackets and an IPv4 address are refused, but of an IPv6 address without
brackets the last group is taken for a port. -/
theorem missing_port_decided_short :
    let bracketed := "tcp://[2001:db8::1:5554]"
    let bare := "tcp://10.0.0.1"
    (resolveBroker bracketed ()).value = .error ⟨bracketed, .malformed⟩ ∧
      (resolveBroker bare ()).value = .error ⟨bare, .malformed⟩ ∧
      (resolveBroker "::1:80" ()).value = .ok ⟨.v6 ⟨#v[0, 0, 0, 0, 0, 0, 0, 1]⟩, 80⟩ := by
  have long : Address.ofText? "2001:db8::1:5554".toList =
      some (.v6 ⟨#v[0x2001, 0xdb8, 0, 0, 0, 0, 1, 0x5554]⟩) := by decide +kernel
  have four : Address.ofText? "10.0.0.1".toList = some (.v4 ⟨10, 0, 0, 1⟩) := by decide +kernel
  have short : Address.ofText? "::1:80".toList =
      some (.v6 ⟨#v[0, 0, 0, 0, 0, 0, 1, 0x80]⟩) := by decide +kernel
  have ends : EndsLikePort "::1:80".toList ⟨.v6 ⟨#v[0, 0, 0, 0, 0, 0, 0, 1]⟩, 80⟩ :=
    ⟨"::1".toList, "80".toList, by decide +kernel⟩
  refine ⟨?bracketed, ?bare, ?taken⟩
  case bracketed =>
    exact (missing_port_decided namesLackColons_lookUp long _ ()).1 (by decide +kernel)
  case bare =>
    have decided := missing_port_decided namesLackColons_lookUp four "tcp://10.0.0.1" ()
    exact (decided.2 (by decide +kernel)).1 rfl
  case taken =>
    have decided := missing_port_decided namesLackColons_lookUp short "::1:80" ()
    exact ((decided.2 (by decide +kernel)).2.1 _).mpr ends

/-- An IPv6 address without a port leads to another address, made of its beginning. -/
theorem port_taken_from_address :
    Address.ofText? "2001:db8::1:5554".toList =
        some (.v6 ⟨#v[0x2001, 0xdb8, 0, 0, 0, 0, 1, 0x5554]⟩) ∧
      (resolveBroker "2001:db8::1:5554" ()).value =
        .ok ⟨.v6 ⟨#v[0x2001, 0xdb8, 0, 0, 0, 0, 0, 1]⟩, 5554⟩ := by
  decide +kernel

end PhotonFerry.Endpoint
