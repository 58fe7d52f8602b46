/-!
# UTF-8 text

Names and file names arrive as bytes. `decode` reads them strictly and says
where and how a broken text breaks; `decodeLossy` always answers and puts one
replacement character where a longest prefix of a valid sequence stops making
sense. Both stand on `front`, which looks at the first sequence only.
-/

namespace PhotonFerry.Utf8

/-- What stands at the front of a nonempty byte string. -/
inductive Front where
  /-- A whole character and the bytes behind it. -/
  | scalar (value : Char) (rest : List UInt8)
  /-- `length` bytes that no valid continuation can follow, and the bytes behind them. -/
  | broken (length : Nat) (rest : List UInt8)
  /-- A valid beginning that the end of the bytes cuts off. -/
  | cut
  deriving Repr

/-- A byte that may stand at the second or a later place of a sequence. -/
def isContinuation (byte : UInt8) : Bool :=
  0x80 ≤ byte && byte ≤ 0xbf

/-- The second bytes that may follow a given lead byte: those that keep the
sequence shortest, outside the surrogates and at most the last code point. -/
def isSecond (lead second : UInt8) : Bool :=
  if lead = 0xe0 then 0xa0 ≤ second && second ≤ 0xbf
  else if lead = 0xed then 0x80 ≤ second && second ≤ 0x9f
  else if lead = 0xf0 then 0x90 ≤ second && second ≤ 0xbf
  else if lead = 0xf4 then 0x80 ≤ second && second ≤ 0x8f
  else isContinuation second

/-- The six payload bits of a continuation byte. -/
private def payload (byte : UInt8) : Nat :=
  byte.toNat % 64

/-- Read the sequence that `lead` opens. -/
def front (lead : UInt8) (rest : List UInt8) : Front :=
  if lead < 0x80 then .scalar (Char.ofNat lead.toNat) rest
  else if 0xc2 ≤ lead && lead ≤ 0xdf then
    match rest with
    | [] => .cut
    | second :: rest₂ =>
      if isContinuation second then
        .scalar (Char.ofNat (lead.toNat % 32 * 64 + payload second)) rest₂
      else .broken 1 rest
  else if 0xe0 ≤ lead && lead ≤ 0xef then
    match rest with
    | [] => .cut
    | second :: rest₂ =>
      if isSecond lead second then
        match rest₂ with
        | [] => .cut
        | third :: rest₃ =>
          if isContinuation third then
            let code := lead.toNat % 16 * 4096 + payload second * 64 + payload third
            .scalar (Char.ofNat code) rest₃
          else .broken 2 rest₂
      else .broken 1 rest
  else if 0xf0 ≤ lead && lead ≤ 0xf4 then
    match rest with
    | [] => .cut
    | second :: rest₂ =>
      if isSecond lead second then
        match rest₂ with
        | [] => .cut
        | third :: rest₃ =>
          if isContinuation third then
            match rest₃ with
            | [] => .cut
            | fourth :: rest₄ =>
              if isContinuation fourth then
                .scalar (Char.ofNat (lead.toNat % 8 * 262144 + payload second * 4096
                  + payload third * 64 + payload fourth)) rest₄
              else .broken 3 rest₃
          else .broken 2 rest₂
      else .broken 1 rest
  else .broken 1 rest

/-- A sequence takes at least its lead byte. -/
theorem front_scalar_length_le {lead : UInt8} {rest after : List UInt8} {value : Char}
    (read : front lead rest = .scalar value after) : after.length ≤ rest.length := by
  unfold front at read
  grind

/-- What is skipped as broken includes the lead byte. -/
theorem front_broken_length_le {lead : UInt8} {rest after : List UInt8} {length : Nat}
    (read : front lead rest = .broken length after) : after.length ≤ rest.length := by
  unfold front at read
  grind

/-- The characters of a byte string, each broken or cut sequence shown as one
replacement character. -/
def scalars : List UInt8 → List Char
  | [] => []
  | lead :: rest =>
    match _read : front lead rest with
    | .scalar value after => value :: scalars after
    | .broken _ after => '\ufffd' :: scalars after
    | .cut => ['\ufffd']
termination_by bytes => bytes.length
decreasing_by
  · have := front_scalar_length_le _read; simp only [List.length_cons]; omega
  · have := front_broken_length_le _read; simp only [List.length_cons]; omega

/-- The text of some bytes, whatever they hold. -/
def decodeLossy (bytes : ByteArray) : String :=
  String.ofList (scalars bytes.data.toList)

/-- Where a text stops being UTF-8. -/
inductive Fault where
  /-- `length` bytes at `index` that no valid continuation can follow. -/
  | invalid (length index : Nat)
  /-- The text ends inside the sequence at `index`. -/
  | incomplete (index : Nat)
  deriving DecidableEq, Repr

/-- The report of a fault. -/
def Fault.message : Fault → String
  | .invalid length index => s!"invalid utf-8 sequence of {length} bytes from index {index}"
  | .incomplete index => s!"incomplete utf-8 byte sequence from index {index}"

/-- The first fault of the bytes that begin at `index`. -/
def firstFault (index : Nat) : List UInt8 → Option Fault
  | [] => none
  | lead :: rest =>
    match _read : front lead rest with
    | .scalar _ after => firstFault (index + (rest.length + 1 - after.length)) after
    | .broken length _ => some (.invalid length index)
    | .cut => some (.incomplete index)
termination_by bytes => bytes.length
decreasing_by
  have := front_scalar_length_le _read; simp only [List.length_cons]; omega

/-- The text of valid bytes, or the first fault. -/
def decode (bytes : ByteArray) : Except Fault String :=
  match String.fromUTF8? bytes with
  | some text => .ok text
  | none => .error ((firstFault 0 bytes.data.toList).getD (.incomplete 0))

/-- Bytes are read as a text exactly if they are what the text is written as. -/
theorem decode_eq_ok_iff {bytes : ByteArray} {text : String} :
    decode bytes = .ok text ↔ bytes = text.toUTF8 := by
  unfold decode String.fromUTF8?
  by_cases valid : bytes.IsValidUTF8
  · simp only [dif_pos valid, Except.ok.injEq]
    constructor
    · rintro rfl
      rfl
    · rintro rfl
      rfl
  · simp only [dif_neg valid, reduceCtorEq, false_iff]
    rintro rfl
    exact valid text.isValidUTF8

/-- Bytes are read exactly if they are valid. -/
theorem exists_decode_iff {bytes : ByteArray} :
    (∃ text, decode bytes = .ok text) ↔ bytes.IsValidUTF8 := by
  simp only [decode_eq_ok_iff]
  constructor
  · rintro ⟨text, rfl⟩
    exact text.isValidUTF8
  · intro valid
    exact ⟨.fromUTF8 bytes valid, rfl⟩

end PhotonFerry.Utf8
