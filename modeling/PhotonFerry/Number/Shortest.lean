import PhotonFerry.Number.Binary
import PhotonFerry.Number.Decimal
import PhotonFerry.Number.Word
/-!
# The shortest decimal of a double

The decimals that read back as a given double fill an interval around it. Of
those on the coarsest decimal grid that has any, the nearest is taken, a tie to
the even one. Grids are tried from one significant digit on; the point of a grid
below the value and the one above it are all that can be nearest.
-/

namespace PhotonFerry.Shortest

/-- The interval of what reads back as a double, and the double itself, all
multiplied by one power of two. -/
structure Interval where
  low : Nat
  value : Nat
  high : Nat
  /-- Whether the ends read back as well. -/
  closed : Bool
  deriving DecidableEq, Repr

/-- The interval around `significand` units; just above a power of two the units
below are half as large. The numbers are in quarters of units. -/
def Interval.around (significand : Nat) (halved : Bool) : Interval where
  low := 4 * significand - if halved then 1 else 2
  value := 4 * significand
  high := 4 * significand + 2
  closed := significand % 2 = 0

/-- Whether a number lies in an interval. -/
def Interval.holds (interval : Interval) (number : Nat) : Bool :=
  if interval.closed then interval.low ≤ number && number ≤ interval.high
  else interval.low < number && number < interval.high

/-- An interval in other units. -/
def Interval.scale (interval : Interval) (factor : Nat) : Interval :=
  { interval with
    low := interval.low * factor
    value := interval.value * factor
    high := interval.high * factor }

/-- The multiple of `step` in an interval that is nearest to its value, a tie to
the even one, as the number of steps. -/
def nearest? (interval : Interval) (step : Nat) : Option Nat :=
  let below := interval.value / step
  let above := below + 1
  let fitsBelow := interval.holds (below * step)
  let fitsAbove := interval.holds (above * step)
  let toBelow := interval.value - below * step
  let toAbove := above * step - interval.value
  if fitsBelow && fitsAbove then
    if toBelow < toAbove then some below
    else if toAbove < toBelow then some above
    else some (if below % 2 = 0 then below else above)
  else if fitsBelow then some below
  else if fitsAbove then some above
  else none

/-- A power of ten that is not above the quotient of two positive numbers, nor a
hundredth of it. -/
def magnitude (numerator denominator : Nat) : Int :=
  if denominator ≤ numerator then (Decimal.digitCount (numerator / denominator) : Int) - 1
  else -(Decimal.digitCount (denominator / numerator) : Int)

/-- The nearest number on the grid of the given power of ten that reads back. -/
def onGrid? (interval : Interval) (exponent power : Int) : Option Nat :=
  let twos := interval.scale (twoTo (exponent - 2).toNat)
  let step := twoTo (2 - exponent).toNat
  if 0 ≤ power then nearest? twos (step * tenTo power.toNat)
  else nearest? (twos.scale (tenTo power.natAbs)) step

/-- The number without the zeros at its end, and the power of ten that they make. -/
def stripZeros (number : Nat) (power : Int) : Nat × Int :=
  if 0 < number ∧ number % 10 = 0 then stripZeros (number / 10) (power + 1)
  else (number, power)
termination_by number
decreasing_by omega

/-- The largest number of digits that a double needs. -/
def mostDigits : Nat := 17

/-- The shortest decimal of `significand · 2 ^ exponent`, a positive double, as
digits and a power of ten. -/
def decimal (significand : Nat) (exponent : Int) : Nat × Int :=
  let halved := significand = twoTo 52 && decide (-1074 < exponent)
  let interval := Interval.around significand halved
  let (numerator, denominator) := Binary.fractionOf significand exponent
  let top := magnitude numerator denominator
  let found := (List.range (mostDigits + 1)).findSome? fun (more : Nat) =>
    let power := top - more
    (onGrid? interval exponent power).map fun number => stripZeros number power
  found.getD (significand, 0)

end PhotonFerry.Shortest
