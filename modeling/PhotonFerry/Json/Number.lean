import PhotonFerry.Json.Value
import PhotonFerry.Number.Decimal
import PhotonFerry.Number.Word
/-!
# The values of JSON numbers

An integer that fits 64 bits has its exact value; every other number stands for
a double. That double is computed from the leading digits that fit 64 bits and
one multiplication or division by a power of ten, so its last bit is not always
the nearest.
-/

namespace PhotonFerry.Json

/-- What a number stands for. -/
inductive Quantity where
  | unsigned (value : Nat)
  /-- A negative integer, by its absolute value. -/
  | negative (size : Nat)
  | real (value : Float)

namespace Number

/-- The significand that is kept so far. -/
structure Significand where
  digits : Nat := 0
  /-- The power of ten that it has to be multiplied by. -/
  exponent : Int := 0
  /-- Whether digits no longer fit. -/
  full : Bool := false

/-- The largest significand. -/
def significandLimit : Nat := twoTo 64

/-- Take a digit before the point. Digits that do not fit count as zeros. -/
def Significand.takeWhole (kept : Significand) (digit : Char) : Significand :=
  let next := kept.digits * 10 + (digit.toNat - '0'.toNat)
  if !kept.full && next < significandLimit then { kept with digits := next }
  else { kept with full := true, exponent := kept.exponent + 1 }

/-- Take a digit behind the point. From the first one that does not fit all are ignored. -/
def Significand.takeFraction (kept : Significand) (digit : Char) : Significand :=
  let next := kept.digits * 10 + (digit.toNat - '0'.toNat)
  if !kept.full && next < significandLimit then
    { kept with digits := next, exponent := kept.exponent - 1 }
  else { kept with full := true }

/-- The largest exponent of a power of ten that is a double. -/
def largestPower : Nat := 308

/-- The power of ten next to the exact one. -/
def powerOfTen (exponent : Nat) : Float :=
  Float.ofScientific 1 false exponent

/-- A double times a power of ten, in steps that are doubles; none if that is too large. -/
def scaled (value : Float) (exponent : Int) : Option Float :=
  if 0 ≤ exponent then
    if exponent ≤ largestPower then
      let result := value * powerOfTen exponent.toNat
      if result.isInf then none else some result
    else if value == 0.0 then some value
    else none
  else if -(largestPower : Int) ≤ exponent then some (value / powerOfTen exponent.natAbs)
  else if value == 0.0 then some value
  else scaled (value / powerOfTen largestPower) (exponent + largestPower)
termination_by exponent.natAbs
decreasing_by simp only [largestPower] at *; omega

/-- The limits of an exponent. -/
def clampExponent (exponent : Int) : Int :=
  max (-(twoTo 31 : Int)) (min exponent ((twoTo 31 : Int) - 1))

/-- The double of a significand and an exponent. -/
def realOf (negative : Bool) (digits : Nat) (exponent : Int) : Option Float :=
  (scaled (Float.ofNat digits) exponent).map fun value => if negative then -value else value

/-- What a number stands for; none if it is too large. -/
def quantity? (number : Number) : Option Quantity :=
  let whole := number.whole.foldl Significand.takeWhole {}
  let kept := number.fraction.foldl Significand.takeFraction { whole with full := false }
  match number.exponent with
  | none =>
    if number.fraction.isEmpty && !whole.full then
      if !number.negative then some (.unsigned whole.digits)
      else if whole.digits = 0 ∨ twoTo 63 < whole.digits then
        some (.real (-(Float.ofNat whole.digits)))
      else some (.negative whole.digits)
    else (realOf number.negative kept.digits kept.exponent).map .real
  | some (down, exponentDigits) =>
    let size := Decimal.digitsValue exponentDigits
    if twoTo 31 ≤ size then
      if kept.digits ≠ 0 && !down then none
      else some (.real (if number.negative then -0.0 else 0.0))
    else
      let shift : Int := if down then -size else size
      (realOf number.negative kept.digits (clampExponent (kept.exponent + shift))).map .real

end Number

end PhotonFerry.Json
