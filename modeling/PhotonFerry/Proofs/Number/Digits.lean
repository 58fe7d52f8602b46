import PhotonFerry.Number.Digits
import PhotonFerry.Number.Numeral
/-!
# Digits that were written are read

A number that was written in a radix is read again, up to where its digits end: they must
be followed by something else, or by nothing.
-/

namespace PhotonFerry.Digits

/-- A text does not go on with a digit of a radix. -/
def Stops (radix : Nat) (text : List Char) : Prop :=
  ∀ char ∈ text.head?, isDigitOf radix char = false

@[simp] theorem stops_nil (radix : Nat) : Stops radix [] := nofun

@[simp] theorem stops_cons {radix : Nat} {char : Char} {rest : List Char} :
    Stops radix (char :: rest) ↔ isDigitOf radix char = false := by
  simp [Stops]

/-- A digit of a radix is one of a larger radix. -/
theorem isDigitOf_mono {radix smaller : Nat} {char : Char} (le : smaller ≤ radix)
    (digit : isDigitOf smaller char = true) : isDigitOf radix char = true := by
  rw [isDigitOf, Option.any_eq_true] at digit ⊢
  obtain ⟨value, read, small⟩ := digit
  simp only [decide_eq_true_eq] at small ⊢
  exact ⟨value, read, Nat.lt_of_lt_of_le small le⟩

/-- What is no digit of a radix is none of a smaller one. -/
theorem Stops.mono {radix smaller : Nat} {text : List Char} (stops : Stops radix text)
    (le : smaller ≤ radix) : Stops smaller text := by
  intro char first
  have other := stops char first
  rw [Bool.eq_false_iff] at other ⊢
  exact fun digit => other (isDigitOf_mono le digit)

/-- Digits are read up to where they end. -/
theorem span_append {radix : Nat} {digits rest : List Char}
    (all : ∀ char ∈ digits, isDigitOf radix char = true) (stops : Stops radix rest) :
    span radix (digits ++ rest) = (digits.filterMap value?, rest) := by
  rw [span, List.takeWhile_append_of_pos all, List.dropWhile_append_of_pos all]
  cases rest with
  | nil => simp
  | cons char rest => simp [stops_cons.mp stops]

/-- Where no digits stand none are read. -/
theorem span_of_stops {radix : Nat} {text : List Char} (stops : Stops radix text) :
    span radix text = ([], text) := by
  simpa using span_append (List.forall_mem_nil _) stops

/-- The digit of a small number. -/
theorem value?_digitChar {value : Nat} (small : value < 16) :
    value? (Nat.digitChar value) = some value := by
  revert value
  decide

/-- The digits of a number are a single one, or those of a quotient and one more. -/
theorem toDigits_induction {radix : Nat} (one_lt : 1 < radix) {motive : Nat → List Char → Prop}
    (single : ∀ number, number < radix → motive number [Nat.digitChar number])
    (further : ∀ number, radix ≤ number →
      motive (number / radix) (Nat.toDigits radix (number / radix)) →
      motive number
        (Nat.toDigits radix (number / radix) ++ [Nat.digitChar (number % radix)]))
    (number : Nat) : motive number (Nat.toDigits radix number) := by
  induction number using Nat.strongRecOn with
  | ind number ih =>
    rcases Nat.lt_or_ge number radix with small | big
    · rw [Nat.toDigits_of_lt_base small]
      exact single number small
    · rw [Nat.toDigits_of_base_le one_lt big]
      exact further number big (ih _ (Nat.div_lt_self (by omega) one_lt))

section Written

variable {radix : Nat} (one_lt : 1 < radix) (le : radix ≤ 16)

include one_lt le

/-- The digits of a number are digits. -/
theorem isDigitOf_of_mem_toDigits (number : Nat) :
    ∀ char ∈ Nat.toDigits radix number, isDigitOf radix char = true := by
  have digit {value : Nat} (small : value < radix) :
      isDigitOf radix (Nat.digitChar value) = true := by
    simp [isDigitOf, value?_digitChar (Nat.lt_of_lt_of_le small le), small]
  refine toDigits_induction one_lt
    (motive := fun _ digits => ∀ char ∈ digits, isDigitOf radix char = true)
    (fun number small => ?_) (fun number big front => ?_) number
  · simpa using digit small
  · simpa [or_imp, forall_and] using ⟨front, digit (Nat.mod_lt number (by omega))⟩

/-- The digits of a number spell it, and none is passed over. -/
theorem number_toDigits (number : Nat) :
    Digits.number radix ((Nat.toDigits radix number).filterMap value?) = number ∧
      ((Nat.toDigits radix number).filterMap value?).length =
        (Nat.toDigits radix number).length := by
  refine toDigits_induction one_lt
    (motive := fun number digits => Digits.number radix (digits.filterMap value?) = number ∧
      (digits.filterMap value?).length = digits.length)
    (fun number small => ?_) (fun number big front => ?_) number
  · simp [value?_digitChar (Nat.lt_of_lt_of_le small le), Digits.number]
  · have last : number % radix < radix := Nat.mod_lt number (by omega)
    rw [List.filterMap_append, List.length_append, List.length_append, front.2, Digits.number,
      List.foldl_append, ← Digits.number, front.1]
    simp only [value?_digitChar (Nat.lt_of_lt_of_le last le), List.filterMap_cons,
      List.filterMap_nil, List.foldl_cons, List.foldl_nil, List.length_singleton, and_true]
    rw [Nat.mul_comm]
    exact Nat.div_add_mod number radix

/-- Only zero is written with a leading zero. -/
theorem leading_toDigits (number : Nat) :
    ((Nat.toDigits radix number).filterMap value?).head? = some 0 → number = 0 := by
  refine toDigits_induction one_lt
    (motive := fun number digits => (digits.filterMap value?).head? = some 0 → number = 0)
    (fun number small => ?_) (fun number big front => ?_) number
  · simp [value?_digitChar (Nat.lt_of_lt_of_le small le)]
  · have nonempty : (Nat.toDigits radix (number / radix)).filterMap value? ≠ [] := by
      rw [← List.length_pos_iff, (number_toDigits one_lt le _).2]
      exact Nat.length_toDigits_pos
    obtain ⟨first, rest, values⟩ := List.exists_cons_of_ne_nil nonempty
    rw [values] at front
    rw [List.filterMap_append, values]
    intro zero
    have quotient : 0 < number / radix := Nat.div_pos big (by omega)
    exact absurd (front zero) (by omega)

end Written

end PhotonFerry.Digits

/-- The decimal digits of a number spell it. -/
theorem PhotonFerry.Decimal.digitsValue_toDigits (number : Nat) :
    digitsValue (Nat.toDigits 10 number) = number := by
  have read := Nat.ofDigitChars_ten_toDigits (n := number)
  rw [Nat.ofDigitChars_eq_foldl] at read
  simpa only [digitsValue, Nat.mul_comm] using read

/-- A number that a width can hold is read as it was written. -/
theorem PhotonFerry.Numeral.parse?_toDigits {bits number : Nat} (fits : number < twoTo bits) :
    parse? bits (Nat.toDigits 10 number) = some number := by
  have all : (Nat.toDigits 10 number).all Char.isDigit = true :=
    List.all_eq_true.mpr fun _ => Nat.isDigit_of_mem_toDigits (by decide) (by decide)
  rw [parse?_eq_some_iff, unsigned_of_all_isDigit all]
  exact ⟨Nat.toDigits_ne_nil, all, Decimal.digitsValue_toDigits number, fits⟩
