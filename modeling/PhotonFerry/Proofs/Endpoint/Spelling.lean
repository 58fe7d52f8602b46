import Mathlib.Data.List.TakeWhile
import PhotonFerry.Proofs.Endpoint.Alphabet
/-!
# Addresses that were written are read

Every address is read from its own text: the bytes and groups from their digits, an IPv6
address without a longest zero run from the groups before and behind it.
-/

namespace PhotonFerry.Address

open Digits

/-! ## Bytes and groups -/

variable {text rest : List Char}

/-- Without digits there is no byte. -/
theorem readByte_of_stops (stops : Stops 10 text) : readByte text = none := by
  simp [readByte, span_of_stops stops]

/-- A byte is read as it was written. -/
theorem readByte_toDigits (byte : UInt8) (stops : Stops 10 rest) :
    readByte (Nat.toDigits 10 byte.toNat ++ rest) = some (byte, rest) := by
  have written := span_append (isDigitOf_of_mem_toDigits (by decide) (by decide) byte.toNat) stops
  obtain ⟨number, length⟩ := number_toDigits (show 1 < 10 by decide) (by decide) byte.toNat
  have leading := leading_toDigits (show 1 < 10 by decide) (by decide) byte.toNat
  generalize (Nat.toDigits 10 byte.toNat).filterMap value? = values at *
  have small : byte.toNat < 256 := byte.toNat_lt
  have most : values.length ≤ 3 :=
    length ▸ (Nat.length_toDigits_le_iff (by decide) (by decide)).mpr (by omega)
  have least : 0 < values.length := length ▸ Nat.length_toDigits_pos
  have sized : ¬ (values.isEmpty = true ∨ 3 < values.length ∨ 255 < byte.toNat) := by
    simp only [List.isEmpty_iff_length_eq_zero]
    omega
  have canonical : ¬ (values.head? = some 0 ∧ 1 < values.length) := by
    rintro ⟨first, long⟩
    rw [length, leading first] at long
    exact absurd long (by decide)
  simp only [readByte, written, number, if_neg sized, if_neg canonical, UInt8.ofNat_toNat]

/-- Without digits there is no group. -/
theorem readGroup_of_stops (stops : Stops 16 text) : readGroup text = none := by
  simp [readGroup, span_of_stops stops]

/-- A group is read as it was written. -/
theorem readGroup_toDigits (group : UInt16) (stops : Stops 16 rest) :
    readGroup (Nat.toDigits 16 group.toNat ++ rest) = some (group, rest) := by
  have written :=
    span_append (isDigitOf_of_mem_toDigits (by decide) (by decide) group.toNat) stops
  obtain ⟨number, length⟩ := number_toDigits (show 1 < 16 by decide) (by decide) group.toNat
  generalize (Nat.toDigits 16 group.toNat).filterMap value? = values at *
  have most : values.length ≤ 4 :=
    length ▸ (Nat.length_toDigits_le_iff (by decide) (by decide)).mpr group.toNat_lt
  have least : 0 < values.length := length ▸ Nat.length_toDigits_pos
  have sized : ¬ (values.isEmpty = true ∨ 4 < values.length) := by
    simp only [List.isEmpty_iff_length_eq_zero]
    omega
  simp only [readGroup, written, if_neg sized, number, UInt16.ofNat_toNat]

/-! ## IPv4 -/

/-- The characters of the text of an IPv4 address. -/
theorem toList_textV4 (address : AddressV4) :
    (textV4 address).toList = Nat.toDigits 10 address.first.toNat ++ '.' ::
      (Nat.toDigits 10 address.second.toNat ++ '.' ::
        (Nat.toDigits 10 address.third.toNat ++ '.' ::
          Nat.toDigits 10 address.fourth.toNat)) := by
  have point : (toString ".").toList = ['.'] := rfl
  simp [textV4, point]

/-- An IPv4 address is read as it was written. -/
theorem readV4_textV4 (address : AddressV4) (stops : Stops 10 rest) :
    readV4 ((textV4 address).toList ++ rest) = some (address, rest) := by
  have point (text : List Char) : Stops 10 ('.' :: text) := by simp [isDigitOf, value?]
  simp only [toList_textV4, List.append_assoc, List.cons_append, readV4]
  simp [readByte_toDigits _ (point _), readByte_toDigits _ stops, readMark]

/-- A text in which a point does not follow the leading digits is no IPv4 address. -/
theorem readV4_eq_none (pointless : (text.dropWhile (isDigitOf 10)).head? ≠ some '.') :
    readV4 text = none := by
  cases read : readByte text with
  | none => simp [readV4, read]
  | some found =>
    obtain ⟨byte, rest⟩ := found
    rw [← eq_dropWhile_of_readByte read] at pointless
    cases rest with
    | nil => simp [readV4, read, readMark]
    | cons char rest =>
      have other : char ≠ '.' := by simpa using pointless
      simp [readV4, read, readMark, other]

/-! ## IPv6 -/

/-- Groups with colons between them, and before them if groups stand before. -/
def groupChars (started : Bool) : List UInt16 → List Char
  | [] => []
  | group :: groups =>
    (if started then [':'] else []) ++ Nat.toDigits 16 group.toNat ++ groupChars true groups

theorem toList_textGroups (groups : List UInt16) :
    (textGroups groups).toList = groupChars false groups := by
  have behind (group : UInt16) (groups : List UInt16) :
      [':'].intercalate ((group :: groups).map fun group => Nat.toDigits 16 group.toNat) =
        Nat.toDigits 16 group.toNat ++ groupChars true groups := by
    induction groups generalizing group with
    | nil => simp [groupChars]
    | cons next groups ih =>
      have step := ih next
      rw [List.map_cons] at step
      rw [List.map_cons, List.map_cons, List.intercalate_cons_cons, step]
      simp [groupChars]
  cases groups with
  | nil => rfl
  | cons group groups =>
    have colon : ":".toList = [':'] := rfl
    rw [textGroups, String.toList_intercalate, List.map_map, colon]
    simpa [groupChars, Text.hexDigits, Function.comp_def] using behind group groups

/-- What follows groups cannot be taken for a part of them: no digit and no point. -/
def Closes (text : List Char) : Prop :=
  Stops 16 text ∧ text.head? ≠ some '.'

theorem closes_nil : Closes [] := ⟨stops_nil 16, nofun⟩

theorem closes_colon (text : List Char) : Closes (':' :: text) :=
  ⟨by simp [isDigitOf, value?], by simp⟩

/-- Groups that stand before are followed by a colon or close what stands before them. -/
theorem Closes.groupChars (groups : List UInt16) (closes : Closes rest) :
    Closes (groupChars true groups ++ rest) := by
  cases groups with
  | nil => exact closes
  | cons group groups => exact closes_colon _

/-- A hexadecimal digit is no point. -/
theorem ne_point_of_isDigitOf {char : Char} (digit : isDigitOf 16 char = true) : char ≠ '.' := by
  rintro rfl
  exact absurd digit (by decide)

/-- A group is not the beginning of an IPv4 address unless a point follows. -/
theorem readV4_toDigits (group : UInt16) (closes : Closes rest) :
    readV4 (Nat.toDigits 16 group.toNat ++ rest) = none := by
  refine readV4_eq_none fun point => ?_
  cases letters : (Nat.toDigits 16 group.toNat).dropWhile (isDigitOf 10) with
  | nil =>
    -- all digits are decimal, and what follows is not
    have decimal := List.dropWhile_eq_nil_iff.mp letters
    have stops := closes.1.mono (show 10 ≤ 16 by decide)
    rw [List.dropWhile_append_of_pos decimal] at point
    cases rest with
    | nil => exact nomatch point
    | cons char rest =>
      rw [List.dropWhile_cons_of_neg (by simp [stops_cons.mp stops])] at point
      exact closes.2 point
  | cons char later =>
    rw [List.dropWhile_append, letters] at point
    have member : char ∈ Nat.toDigits 16 group.toNat :=
      (List.dropWhile_suffix _).subset (letters ▸ List.mem_cons_self)
    have digit := isDigitOf_of_mem_toDigits (by decide) (by decide) group.toNat char member
    exact ne_point_of_isDigitOf digit (by simpa using point)

/-- Where no digit stands no groups are read. -/
theorem readGroups_of_stops {started : Bool}
    (stuck : ∀ inner, (if started then readMark ':' text else some text) = some inner →
      Stops 16 inner) (limit : Nat) :
    readGroups limit started text = ⟨[], false, text⟩ := by
  cases limit with
  | zero => rfl
  | succ limit =>
    rw [readGroups]
    cases opened : (if started then readMark ':' text else some text) with
    | none => rfl
    | some inner =>
      have stops := stuck inner opened
      have byteless := readByte_of_stops (stops.mono (show 10 ≤ 16 by decide))
      have v4less : readV4 inner = none := by simp [readV4, byteless]
      simp [v4less, readGroup_of_stops stops]

/-- Groups are read as they were written, and then what follows them. -/
theorem readGroups_groupChars (groups : List UInt16) (started : Bool) (limit : Nat)
    (closes : Closes rest) :
    readGroups (groups.length + limit) started (groupChars started groups ++ rest) =
      let later := readGroups limit (started || !groups.isEmpty) rest
      { later with groups := groups ++ later.groups } := by
  induction groups generalizing started with
  | nil => simp [groupChars]
  | cons group groups ih =>
    have behind := closes.groupChars groups
    have opened : (if started then
        readMark ':' (groupChars started (group :: groups) ++ rest) else
        some (groupChars started (group :: groups) ++ rest)) =
          some (Nat.toDigits 16 group.toNat ++ (groupChars true groups ++ rest)) := by
      cases started <;> simp [groupChars, readMark]
    rw [List.length_cons, Nat.add_right_comm, readGroups, opened]
    simp only [readV4_toDigits group behind, ite_self, readGroup_toDigits group behind.1, ih]
    simp

/-- Groups are not the beginning of an IPv4 address. -/
theorem readV4_groupChars (groups : List UInt16) (closes : Closes rest) :
    readV4 (groupChars false groups ++ rest) = none := by
  cases groups with
  | nil =>
    have byteless := readByte_of_stops (closes.1.mono (show 10 ≤ 16 by decide))
    simp [groupChars, readV4, byteless]
  | cons group groups => simpa [groupChars] using readV4_toDigits group (closes.groupChars groups)

/-- Two colons end the groups before them. -/
theorem readGroups_colons (started : Bool) (limit : Nat) (text : List Char) :
    readGroups limit started (':' :: ':' :: text) = ⟨[], false, ':' :: ':' :: text⟩ := by
  refine readGroups_of_stops (fun inner opened => ?_) limit
  cases started with
  | false => exact Option.some.inj opened ▸ (closes_colon _).1
  | true => exact Option.some.inj opened ▸ (closes_colon _).1

/-- Nothing ends groups as well. -/
theorem readGroups_nil (started : Bool) (limit : Nat) :
    readGroups limit started [] = ⟨[], false, []⟩ := by
  refine readGroups_of_stops (fun inner opened => ?_) limit
  cases started with
  | false => exact Option.some.inj opened ▸ closes_nil.1
  | true => exact nomatch opened

/-- The number at the front counts the zeros there. -/
theorem exists_replicate_of_zeroRuns {groups : List UInt16} {length : Nat}
    (first : (zeroRuns groups).head? = some length) :
    ∃ rest, groups = List.replicate length 0 ++ rest := by
  induction groups generalizing length with
  | nil => exact nomatch first
  | cons group groups ih =>
    simp only [zeroRuns, List.head?_cons, Option.some.injEq] at first
    by_cases zero : group = 0
    · rw [if_pos zero] at first
      cases later : (zeroRuns groups).head? with
      | none =>
        rw [List.head?_eq_none_iff.mp later] at first
        exact ⟨groups, by simp [← first, zero]⟩
      | some count =>
        obtain ⟨rest, same⟩ := ih later
        rw [List.headD_eq_head?_getD, later, Option.getD_some] at first
        exact ⟨rest, by rw [← first, List.replicate_succ, List.cons_append, ← same, zero]⟩
    · rw [if_neg zero] at first
      exact ⟨group :: groups, by simp [← first]⟩

theorem zeroRuns_drop (groups : List UInt16) (place : Nat) :
    zeroRuns (groups.drop place) = (zeroRuns groups).drop place := by
  induction groups generalizing place with
  | nil => simp [zeroRuns]
  | cons group groups ih =>
    cases place with
    | zero => rfl
    | succ place => simpa [zeroRuns] using ih place

/-- The longest zero run begins at its place. -/
theorem getElem?_of_longestZeroRun {groups : List UInt16} {place length : Nat}
    (longest : longestZeroRun groups = (place, length)) (some_zero : 0 < length) :
    (zeroRuns groups)[place]? = some length := by
  obtain ⟨rfl, rfl⟩ := Prod.mk.inj longest
  -- the maximum is not the 0 with which the fold begins, so some run has it
  have attained : (zeroRuns groups).foldl max 0 ∈ zeroRuns groups := by
    rw [List.foldl_max] at some_zero ⊢
    cases largest : (zeroRuns groups).max? with
    | none => simp [largest] at some_zero
    | some length =>
      rw [Option.getD_some, Nat.max_eq_right (Nat.zero_le length)]
      exact List.max?_mem largest
  generalize (zeroRuns groups).foldl max 0 = length at *
  have inside := List.findIdx_lt_length_of_exists (p := fun run => decide (run = length))
    ⟨length, attained, decide_eq_true rfl⟩
  have found := List.findIdx_getElem (p := fun run => decide (run = length)) (w := inside)
  rw [List.getElem?_eq_getElem inside, of_decide_eq_true found]

/-- Where the longest zero run is, there are so many zeros. -/
theorem eq_of_longestZeroRun {groups : List UInt16} {place length : Nat}
    (longest : longestZeroRun groups = (place, length)) (some_zero : 0 < length) :
    groups = groups.take place ++ (List.replicate length 0 ++ groups.drop (place + length)) := by
  have first : (zeroRuns (groups.drop place)).head? = some length := by
    rw [zeroRuns_drop, List.head?_drop, getElem?_of_longestZeroRun longest some_zero]
  obtain ⟨rest, zeros⟩ := exists_replicate_of_zeroRuns first
  have behind : groups.drop (place + length) = rest := by
    rw [← List.drop_drop, zeros, List.drop_left' (by simp)]
  rw [behind, ← zeros, List.take_append_drop]

/-- The address of eight groups. -/
theorem ofGroups?_toList (address : AddressV6) :
    ofGroups? address.groups.toList = some address := by
  obtain ⟨⟨groups, size⟩⟩ := address
  simp [ofGroups?, size]

/-- The halves of a group make up the group. -/
theorem joined_halves (group : UInt16) :
    (group >>> 8).toUInt8.toUInt16 <<< 8 ||| group.toUInt8.toUInt16 = group := by
  have small := group.toNat_lt
  have low : group.toNat % 2 ^ 8 < 2 ^ 8 := Nat.mod_lt _ (by decide)
  have high : group.toNat / 2 ^ 8 < 2 ^ 8 := by omega
  have shift : (8 : UInt16).toNat % 16 = 8 := by decide
  apply UInt16.toNat_inj.mp
  simp only [UInt16.toNat_or, UInt16.toNat_shiftLeft, UInt8.toNat_toUInt16, UInt16.toNat_toUInt8,
    UInt16.toNat_shiftRight, Nat.shiftRight_eq_div_pow, shift, Nat.mod_eq_of_lt high]
  rw [Nat.mod_eq_of_lt, ← Nat.shiftLeft_add_eq_or_of_lt low, Nat.shiftLeft_eq]
  · omega
  · rw [Nat.shiftLeft_eq]
    omega

/-- The groups of the two halves of an IPv4 address. -/
def groupsOfV4 (address : AddressV4) : List UInt16 :=
  [address.first.toUInt16 <<< 8 ||| address.second.toUInt16,
    address.third.toUInt16 <<< 8 ||| address.fourth.toUInt16]

/-- The groups of an IPv6 address that stands for an IPv4 address. -/
theorem eq_of_mappedV4? {groups : List UInt16} {mapped : AddressV4}
    (stands : mappedV4? groups = some mapped) :
    groups = List.replicate 5 0 ++ 0xffff :: groupsOfV4 mapped := by
  rw [mappedV4?.eq_def] at stands
  split at stands
  case h_1 high low =>
    obtain rfl := Option.some.inj stands
    simp only [groupsOfV4, joined_halves]
    rfl
  case h_2 => exact nomatch stands

/-- An IPv4 address is read for two groups. -/
theorem readGroups_textV4 (address : AddressV4) (limit : Nat) :
    readGroups (limit + 2) true (':' :: (textV4 address).toList) =
      ⟨groupsOfV4 address, true, []⟩ := by
  have read := readV4_textV4 address (stops_nil 10)
  rw [List.append_nil] at read
  simp [readGroups, readMark, read, groupsOfV4]

/-- Groups to the end of a text are read as they were written. -/
theorem readGroups_whole {groups : List UInt16} {limit : Nat} (enough : groups.length ≤ limit) :
    readGroups limit false (groupChars false groups) = ⟨groups, false, []⟩ := by
  have read := readGroups_groupChars groups false (limit - groups.length) closes_nil
  rw [Nat.add_sub_of_le enough, readGroups_nil, List.append_nil] at read
  simpa using read

/-- The ways in which groups are written: those of an IPv4 address behind zeros and ones, all
of them, or those before and behind a zero run. -/
inductive Spelled : List UInt16 → List Char → Prop
  | mapped (address : AddressV4) :
    Spelled (List.replicate 5 0 ++ 0xffff :: groupsOfV4 address)
      (':' :: ':' :: (groupChars false [0xffff] ++ ':' :: (textV4 address).toList))
  | full (groups : List UInt16) : Spelled groups (groupChars false groups)
  | shortened (front : List UInt16) {length : Nat} (back : List UInt16) (long : 2 ≤ length) :
    Spelled (front ++ (List.replicate length 0 ++ back))
      (groupChars false front ++ ':' :: ':' :: groupChars false back)

/-- The groups of an address are written in one of these ways. -/
theorem spelled_textV6 (address : AddressV6) :
    Spelled address.groups.toList (textV6 address).toList := by
  rw [textV6]
  cases stands : mappedV4? address.groups.toList with
  | some mapped =>
    have marker : "::ffff:".toList = ':' :: ':' :: (groupChars false [0xffff] ++ [':']) := by decide
    simpa [marker, eq_of_mappedV4? stands] using Spelled.mapped mapped
  | none =>
    cases longest : longestZeroRun address.groups.toList with
    | mk place length =>
      by_cases short : length < 2
      case pos =>
        simp only [if_pos short, toList_textGroups]
        exact .full _
      case neg =>
        have colons : "::".toList = [':', ':'] := rfl
        have written := Spelled.shortened (address.groups.toList.take place)
          (address.groups.toList.drop (place + length)) (Nat.le_of_not_lt short)
        rw [← eq_of_longestZeroRun longest (by omega)] at written
        simp only [if_neg short, String.toList_append, toList_textGroups, colons, List.append_assoc]
        exact written

/-- Groups before and behind two colons are read with zeros between them. -/
theorem readV6_of_colons {address : AddressV6} {front back : List UInt16} {endsInV4 : Bool}
    {behind : List Char} (few : front.length < 8)
    (tail : readGroups (7 - front.length) false behind = ⟨back, endsInV4, []⟩)
    (whole : address.groups.toList =
      front ++ (List.replicate (8 - front.length - back.length) 0 ++ back)) :
    readV6 (groupChars false front ++ ':' :: ':' :: behind) = some (address, []) := by
  have head : readGroups 8 false (groupChars false front ++ ':' :: ':' :: behind) =
      ⟨front, false, ':' :: ':' :: behind⟩ := by
    have read := readGroups_groupChars front false (8 - front.length) (closes_colon (':' :: behind))
    rw [Nat.add_sub_of_le (Nat.le_of_lt few), readGroups_colons] at read
    simpa using read
  have unfilled : front.length ≠ 8 := Nat.ne_of_lt few
  simp only [readV6, head, if_neg unfilled]
  simp [readMark, tail, ← whole, ofGroups?_toList]

/-- The groups of an address are read as they were written. -/
theorem Spelled.readV6 {address : AddressV6} {groups : List UInt16}
    (spells : Spelled groups text) (whole : address.groups.toList = groups) :
    Address.readV6 text = some (address, []) := by
  have eight : groups.length = 8 := whole ▸ address.groups.length_toList
  cases spells with
  | mapped v4 =>
    have tail : readGroups 7 false (groupChars false [0xffff] ++ ':' :: (textV4 v4).toList) =
        ⟨0xffff :: groupsOfV4 v4, true, []⟩ := by
      have read := readGroups_groupChars [0xffff] false 6 (closes_colon (textV4 v4).toList)
      simpa [readGroups_textV4 v4 4] using read
    have few : ([] : List UInt16).length < 8 := by decide
    have read := readV6_of_colons few tail whole
    exact read
  | full =>
    have read := readGroups_whole (Nat.le_of_eq eight)
    have made := whole ▸ ofGroups?_toList address
    simp [Address.readV6, read, eight, made]
  | @shortened front length back long =>
    simp only [List.length_append, List.length_replicate] at eight
    have zeros : 8 - front.length - back.length = length := by omega
    have read := readGroups_whole (show back.length ≤ 7 - front.length by omega)
    exact readV6_of_colons (by omega) read (zeros ▸ whole)

/-- Groups are not the beginning of an IPv4 address. -/
theorem Spelled.readV4 {groups : List UInt16} (spells : Spelled groups text) :
    Address.readV4 text = none := by
  cases spells with
  | mapped => exact readV4_groupChars [] (closes_colon _)
  | full => simpa using readV4_groupChars groups closes_nil
  | shortened front => exact readV4_groupChars front (closes_colon _)

/-- An address is read as it was written. -/
theorem ofText?_text (address : Address) : ofText? address.text.toList = some address := by
  cases address with
  | v4 address =>
    have read := readV4_textV4 address (stops_nil 10)
    rw [List.append_nil] at read
    simp [ofText?, text, read]
  | v6 address =>
    have spells := spelled_textV6 address
    simp [ofText?, text, spells.readV4, spells.readV6 rfl]

end PhotonFerry.Address
