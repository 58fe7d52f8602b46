/-!
# Decimal numbers

A decimal number is a whole number of units of a power of ten. `ofText?` reads
the common written form (sign, digits, point, exponent) and `toFloat` gives the
double next to the value.
-/

namespace PhotonFerry

/-- The number `± digits · 10 ^ exponent`. -/
structure Decimal where
  negative : Bool
  digits : Nat
  exponent : Int
  deriving DecidableEq, Repr

namespace Decimal

/-- The number that some ASCII digits spell. -/
def digitsValue (digits : List Char) : Nat :=
  digits.foldl (fun value digit => value * 10 + (digit.toNat - '0'.toNat)) 0

/-- The number of decimal digits of a number, one for zero. -/
def digitCount (number : Nat) : Nat :=
  (Nat.toDigits 10 number).length

/-- The nearest double, a tie to the even neighbour. Numbers beyond every double
become an infinity, and numbers far below every double zero. -/
def toFloat (decimal : Decimal) : Float :=
  let magnitude : Float :=
    if decimal.digits = 0 then 0.0
    else
      let top := (digitCount decimal.digits : Int) + decimal.exponent
      if 400 < top then 1.0 / 0.0
      else if top < -400 then 0.0
      else if decimal.exponent < 0 then
        Float.ofScientific decimal.digits true decimal.exponent.natAbs
      else Float.ofScientific decimal.digits false decimal.exponent.natAbs
  if decimal.negative then -magnitude else magnitude

/-- Read an optional sign. -/
def readSign : List Char → Bool × List Char
  | '-' :: rest => (true, rest)
  | '+' :: rest => (false, rest)
  | text => (false, text)

/-- Read an exponent with its mark, if one stands there. -/
def readExponent : List Char → Option (Int × List Char)
  | [] => some (0, [])
  | mark :: rest =>
    if mark = 'e' ∨ mark = 'E' then
      let (negative, unsigned) := readSign rest
      let (digits, after) := unsigned.span Char.isDigit
      if digits.isEmpty then none
      else
        let size : Int := digitsValue digits
        some (if negative then -size else size, after)
    else some (0, mark :: rest)

/-- Read a whole text: an optional sign, digits with an optional point among
them, and an optional exponent. At least one digit stands before the exponent. -/
def ofText? (text : List Char) : Option Decimal :=
  let (negative, unsigned) := readSign text
  let (whole, rest) := unsigned.span Char.isDigit
  let (fraction, rest) :=
    match rest with
    | '.' :: after => after.span Char.isDigit
    | other => ([], other)
  if whole.isEmpty ∧ fraction.isEmpty then none
  else
    match readExponent rest with
    | some (exponent, []) =>
      some ⟨negative, digitsValue (whole ++ fraction), exponent - fraction.length⟩
    | _ => none

end Decimal

end PhotonFerry
