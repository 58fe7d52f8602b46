import PhotonFerry.Number.Decimal
import PhotonFerry.Number.Single
import PhotonFerry.Number.Word
/-!
# Numbers with 64 significant bits

A decimal can be turned into a double by way of wider numbers: its leading digits
are multiplied by powers of ten, each product rounded to 64 bits, and only the
last one to a double. A stored text becomes a number in this way. The outcome is
the nearest double up to an error far below the last bit, which shows only next
to a tie.
-/

namespace PhotonFerry

/-- The number `significand · 2 ^ exponent`. -/
structure Extended where
  significand : Nat
  exponent : Int
  deriving DecidableEq, Repr

namespace Extended

/-- The number of significant bits. -/
def width : Nat := 64

/-- A whole number as it is. -/
def ofNat (number : Nat) : Extended := ⟨number, 0⟩

/-- The quotient of two positive numbers times a power of two, rounded to the
width, a tie to the even neighbour. -/
def ofQuotient (numerator denominator : Nat) (exponent : Int) : Extended :=
  let shift : Int := (numerator.log2 : Int) - denominator.log2 - width
  let scaledUp := numerator * twoTo (-shift).toNat
  let scaledDown := denominator * twoTo shift.toNat
  if scaledUp / scaledDown < twoTo width then
    ⟨Single.roundQuotient scaledUp scaledDown, exponent + shift⟩
  else ⟨Single.roundQuotient scaledUp (scaledDown * 2), exponent + shift + 1⟩

/-- The rounded product. -/
def mul (left right : Extended) : Extended :=
  ofQuotient (left.significand * right.significand) 1 (left.exponent + right.exponent)

/-- A positive power of ten, or its inverse. -/
def powerOfTen (down : Bool) (power : Nat) : Extended :=
  if down then ofQuotient 1 (tenTo power) 0 else ofQuotient (tenTo power) 1 0

/-- Multiply by one factor as often as told. -/
def mulTimes (factor : Extended) : (times : Nat) → Extended → Extended
  | 0, value => value
  | times + 1, value => mulTimes factor times (value.mul factor)

/-- Multiply by a power of ten in steps of hundreds, tens and ones of its exponent. -/
def scaleTen (value : Extended) (power : Int) : Extended :=
  let down := decide (power < 0)
  let size := power.natAbs
  let hundreds := mulTimes (powerOfTen down 100) (size / 100) value
  let tens := mulTimes (powerOfTen down 10) (size % 100 / 10) hundreds
  mulTimes (powerOfTen down 1) (size % 10) tens

/-- The largest double. -/
def largest : Nat := (twoTo 53 - 1) * twoTo 971

/-- The nearest double, a tie to the even neighbour. Whatever exceeds the largest
double is infinite. -/
def toFloat (value : Extended) : Float :=
  let up := value.exponent.toNat
  let down := (-value.exponent).toNat
  if largest * twoTo down < value.significand * twoTo up then 1.0 / 0.0
  else
    let digits := value.significand * twoTo up * (tenTo down / twoTo down)
    Decimal.toFloat ⟨false, digits, -(down : Int)⟩

end Extended

namespace Decimal

/-- The least number behind which no further digit is kept. -/
def enoughDigits : Nat := 1844674407370955160

/-- The leading digits of a number, as many as are kept, and the number of those
that are not. -/
def leadingDigits (digits : Nat) : Nat × Nat :=
  let count := digitCount digits
  let short := digits / tenTo (count - 19)
  if count ≤ 19 then (digits, 0)
  else if enoughDigits ≤ short then (short, count - 19)
  else (digits / tenTo (count - 20), count - 20)

/-- Move a power of ten into the digits, as far as they have room for it. -/
def absorbUp : (power : Nat) → (digits : Nat) → Nat × Nat
  | 0, digits => (digits, 0)
  | power + 1, digits =>
    if digits < (twoTo 64 - 1) / 10 then absorbUp power (digits * 10) else (digits, power + 1)

/-- Take zeros off the end of the digits, as far as a negative power of ten allows. -/
def absorbDown : (power : Nat) → (digits : Nat) → Nat × Nat
  | 0, digits => (digits, 0)
  | power + 1, digits =>
    if digits % 10 = 0 then absorbDown power (digits / 10) else (digits, power + 1)

/-- The double that the leading digits of a decimal give by way of 64 bits. -/
def toFloatByLeading (decimal : Decimal) : Float :=
  let (kept, dropped) := leadingDigits decimal.digits
  let power := decimal.exponent + dropped
  let top := (digitCount kept : Int) + power
  let magnitude : Float :=
    if kept = 0 then 0.0
    else if 400 < top then 1.0 / 0.0
    else if top < -400 then 0.0
    else
      let (digits, left) : Nat × Int :=
        if 0 ≤ power then
          let (digits, left) := absorbUp power.toNat kept
          (digits, left)
        else
          let (digits, left) := absorbDown power.natAbs kept
          (digits, -(left : Int))
      if left = 0 then Float.ofNat digits
      else ((Extended.ofNat digits).scaleTen left).toFloat
  if decimal.negative then -magnitude else magnitude

end Decimal

end PhotonFerry
