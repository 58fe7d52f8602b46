import PhotonFerry.Number.Decimal
import PhotonFerry.Number.Word
/-!
# Unsigned numerals

Settings, ports and counts are written as ASCII digits with an optional plus
sign. A numeral that its width cannot hold is no numeral.
-/

namespace PhotonFerry.Numeral

/-- What stands behind an optional plus sign. -/
def unsigned : List Char → List Char
  | '+' :: rest => rest
  | text => text

/-- Read a whole text as an unsigned number of the given number of bits. -/
def parse? (bits : Nat) (text : List Char) : Option Nat :=
  let digits := unsigned text
  if digits.isEmpty ∨ !digits.all Char.isDigit then none
  else
    let value := Decimal.digitsValue digits
    if Word.isUnsigned bits value then some value else none

/-- Digits have no sign. -/
theorem unsigned_of_all_isDigit {digits : List Char} (all : digits.all Char.isDigit = true) :
    unsigned digits = digits := by
  refine unsigned.eq_2 digits fun rest same => ?_
  simp [same, Char.isDigit] at all

/-- What does not begin with a plus sign has no sign. -/
theorem unsigned_of_notMem {text : List Char} (plusless : '+' ∉ text) : unsigned text = text :=
  unsigned.eq_2 text fun _ same => plusless (same ▸ List.mem_cons_self)

/-- A text is read exactly if it consists of digits, perhaps behind a plus sign, whose
number the width can hold. -/
theorem parse?_eq_some_iff {bits value : Nat} {text : List Char} :
    parse? bits text = some value ↔
      unsigned text ≠ [] ∧ (unsigned text).all Char.isDigit = true ∧
        Decimal.digitsValue (unsigned text) = value ∧ value < twoTo bits := by
  simp only [parse?, Word.isUnsigned, decide_eq_true_eq, List.isEmpty_iff]
  grind

/-- A numeral without a plus sign consists of digits that spell it. -/
theorem parse?_eq_some_iff_of_notMem {bits value : Nat} {text : List Char}
    (plusless : '+' ∉ text) :
    parse? bits text = some value ↔
      text ≠ [] ∧ text.all Char.isDigit = true ∧
        Decimal.digitsValue text = value ∧ value < twoTo bits := by
  rw [parse?_eq_some_iff, unsigned_of_notMem plusless]

/-- A numeral consists of digits, perhaps behind a plus sign. -/
theorem eq_plus_or_isDigit {bits value : Nat} {text : List Char}
    (read : parse? bits text = some value) :
    ∀ char ∈ text, char = '+' ∨ char.isDigit = true := by
  have all := List.all_eq_true.mp (parse?_eq_some_iff.mp read).2.1
  intro char member
  rw [unsigned.eq_def] at all
  split at all
  case h_1 => exact (List.mem_cons.mp member).imp_right (all char)
  case h_2 => exact .inr (all char member)

end PhotonFerry.Numeral
