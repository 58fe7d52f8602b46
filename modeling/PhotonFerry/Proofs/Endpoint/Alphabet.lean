import PhotonFerry.Endpoint.Address
import PhotonFerry.Proofs.Number.Digits
/-!
# What addresses are written with

Whatever is read as an address consists of hexadecimal digits, points and colons. An IPv4
address has no colon, and an IPv6 address has at least two.
-/

namespace PhotonFerry.Address

open Digits

variable {text rest : List Char}

/-- A character that addresses are written with. -/
def IsAddressChar (char : Char) : Prop :=
  isDigitOf 16 char = true ∨ char = '.' ∨ char = ':'

instance : DecidablePred IsAddressChar := fun char =>
  inferInstanceAs (Decidable (isDigitOf 16 char = true ∨ char = '.' ∨ char = ':'))

/-- A text was read up to a rest: only characters of addresses, with so many colons. -/
def ReadTo (colons : Nat) (text rest : List Char) : Prop :=
  ∃ passed, text = passed ++ rest ∧ (∀ char ∈ passed, IsAddressChar char) ∧
    passed.count ':' = colons

theorem ReadTo.refl (text : List Char) : ReadTo 0 text text := ⟨[], rfl, nofun, rfl⟩

theorem ReadTo.trans {first second : Nat} {middle : List Char} (front : ReadTo first text middle)
    (back : ReadTo second middle rest) : ReadTo (first + second) text rest := by
  obtain ⟨early, rfl, early_chars, rfl⟩ := front
  obtain ⟨late, rfl, late_chars, rfl⟩ := back
  refine ⟨early ++ late, (List.append_assoc ..).symm, fun char member => ?_, List.count_append⟩
  rcases List.mem_append.mp member with member | member
  · exact early_chars char member
  · exact late_chars char member

/-- Digits are read without a colon. -/
theorem readTo_dropWhile {radix : Nat} (le : radix ≤ 16) (text : List Char) :
    ReadTo 0 text (text.dropWhile (isDigitOf radix)) := by
  have digits : ∀ char ∈ text.takeWhile (isDigitOf radix), isDigitOf 16 char = true :=
    fun char member => isDigitOf_mono le (List.all_eq_true.mp List.all_takeWhile char member)
  refine ⟨text.takeWhile (isDigitOf radix), List.takeWhile_append_dropWhile.symm,
    fun char member => .inl (digits char member), List.count_eq_zero_of_not_mem fun colon => ?_⟩
  exact absurd (digits ':' colon) (by decide)

/-- A point or a colon is read. -/
theorem readTo_of_readMark {char : Char} (other : char = '.' ∨ char = ':')
    (read : readMark char text = some rest) : ReadTo (if char = ':' then 1 else 0) text rest := by
  cases text with
  | nil => exact nomatch read
  | cons first later =>
    simp only [readMark, Option.ite_none_right_eq_some, Option.some.injEq] at read
    obtain ⟨rfl, rfl⟩ := read
    exact ⟨[first], rfl, by simpa using .inr other, by simp [List.count_singleton]⟩

/-- A byte is read up to where the digits end. -/
theorem eq_dropWhile_of_readByte {byte : UInt8} (read : readByte text = some (byte, rest)) :
    rest = text.dropWhile (isDigitOf 10) := by
  simp only [readByte, Option.ite_none_left_eq_some, Option.some.injEq, Prod.mk.injEq] at read
  exact read.2.2.2.symm

/-- A group is read up to where the digits end. -/
theorem eq_dropWhile_of_readGroup {group : UInt16} (read : readGroup text = some (group, rest)) :
    rest = text.dropWhile (isDigitOf 16) := by
  simp only [readGroup, Option.ite_none_left_eq_some, Option.some.injEq, Prod.mk.injEq] at read
  exact read.2.2.symm

theorem readTo_of_readByte {byte : UInt8} (read : readByte text = some (byte, rest)) :
    ReadTo 0 text rest :=
  eq_dropWhile_of_readByte read ▸ readTo_dropWhile (by decide) text

theorem readTo_of_readGroup {group : UInt16} (read : readGroup text = some (group, rest)) :
    ReadTo 0 text rest :=
  eq_dropWhile_of_readGroup read ▸ readTo_dropWhile (by decide) text

/-- An IPv4 address is read without a colon. -/
theorem readTo_of_readV4 {address : AddressV4} (read : readV4 text = some (address, rest)) :
    ReadTo 0 text rest := by
  simp only [readV4, Option.bind_eq_bind, Option.bind_eq_some_iff, Prod.exists, Option.some.injEq,
    Prod.mk.injEq] at read
  obtain ⟨_, _, first, _, onward, _, _, second, _, onward', _, _, third, _, onward'', _, _, fourth,
    -, rfl⟩ := read
  have point {text rest : List Char} (read : readMark '.' text = some rest) : ReadTo 0 text rest :=
    readTo_of_readMark (.inl rfl) read
  exact (readTo_of_readByte first).trans <| (point onward).trans <|
    (readTo_of_readByte second).trans <| (point onward').trans <|
    (readTo_of_readByte third).trans <| (point onward'').trans (readTo_of_readByte fourth)

/-- Groups are read with a colon for each but the first, and but the last of an IPv4 address. -/
theorem readTo_readGroups (limit : Nat) (started : Bool) (text : List Char) :
    let run := readGroups limit started text
    ∃ colons, ReadTo colons text run.rest ∧
      run.groups.length ≤
        colons + (if started then 0 else 1) + (if run.endsInV4 then 1 else 0) := by
  induction limit generalizing started text with
  | zero => exact ⟨0, .refl text, Nat.zero_le _⟩
  | succ limit ih =>
    rw [readGroups]
    split
    case h_1 => exact ⟨0, .refl text, Nat.zero_le _⟩
    case h_2 inner opened =>
      have opening : ReadTo (if started then 1 else 0) text inner := by
        cases started with
        | false => exact Option.some.inj opened ▸ .refl text
        | true => exact readTo_of_readMark (.inr rfl) opened
      split
      case h_1 tail rest read =>
        simp only [Option.ite_none_left_eq_some] at read
        refine ⟨_, opening.trans (readTo_of_readV4 read.2), ?_⟩
        cases started <;> simp
      case h_2 =>
        split
        case h_1 => exact ⟨0, .refl text, Nat.zero_le _⟩
        case h_2 group rest read =>
          obtain ⟨colons, later, enough⟩ := ih true rest
          refine ⟨_, opening.trans ((readTo_of_readGroup read).trans later), ?_⟩
          cases started <;> simp at enough ⊢ <;> omega

/-- An IPv6 address is read with at least two colons. -/
theorem readTo_of_readV6 {address : AddressV6} (read : readV6 text = some (address, rest)) :
    ∃ colons, ReadTo colons text rest ∧ 2 ≤ colons := by
  obtain ⟨colons, head, enough⟩ := readTo_readGroups 8 false text
  simp only [readV6, Option.bind_eq_bind] at read
  -- eight groups have colons between them, and fewer are followed by two colons
  split at read
  case isTrue eight =>
    simp only [Option.bind_eq_some_iff, Option.some.injEq, Prod.mk.injEq] at read
    obtain ⟨_, -, -, rfl⟩ := read
    have most : (if (readGroups 8 false text).endsInV4 then 1 else 0) ≤ 1 := by
      split <;> decide
    simp only [eight, Bool.false_eq_true, if_false] at enough
    exact ⟨colons, head, by omega⟩
  case isFalse =>
    simp only [Option.ite_none_left_eq_some, Option.bind_eq_some_iff, Option.some.injEq,
      Prod.mk.injEq] at read
    obtain ⟨-, _, first, _, second, _, -, -, rfl⟩ := read
    obtain ⟨more, tail, -⟩ :=
      readTo_readGroups (7 - (readGroups 8 false text).groups.length) false _
    have colon {text rest : List Char} (read : readMark ':' text = some rest) :
        ReadTo 1 text rest := readTo_of_readMark (.inr rfl) read
    exact ⟨colons + (1 + (1 + more)), head.trans ((colon first).trans ((colon second).trans tail)),
      by omega⟩

/-- A text that was read to its end is all that was read. -/
theorem ReadTo.whole {colons : Nat} (read : ReadTo colons text []) :
    (∀ char ∈ text, IsAddressChar char) ∧ text.count ':' = colons := by
  obtain ⟨passed, rfl, chars, count⟩ := read
  rw [List.append_nil]
  exact ⟨chars, count⟩

/-- An address is written with characters of addresses. An IPv4 address has no colon, and an
IPv6 address at least two. -/
theorem written_of_ofText? {address : Address} (names : ofText? text = some address) :
    (∀ char ∈ text, IsAddressChar char) ∧
      if address.isV4 then text.count ':' = 0 else 2 ≤ text.count ':' := by
  rw [ofText?] at names
  split at names
  case h_1 v4 rest read =>
    simp only [List.isEmpty_iff, Option.ite_none_right_eq_some, Option.some.injEq] at names
    obtain ⟨rfl, rfl⟩ := names
    exact (readTo_of_readV4 read).whole
  case h_2 =>
    split at names
    case h_1 v6 rest read =>
      simp only [List.isEmpty_iff, Option.ite_none_right_eq_some, Option.some.injEq] at names
      obtain ⟨rfl, rfl⟩ := names
      obtain ⟨colons, read, many⟩ := readTo_of_readV6 read
      exact ⟨read.whole.1, read.whole.2.symm ▸ many⟩
    case h_2 => exact nomatch names

end PhotonFerry.Address
