import PhotonFerry.Number.Word
/-!
# Single- and double-precision words

A column of measurements travels and is stored as 32-bit IEEE words. Arithmetic
never happens at that width: a value is widened to a double, used, and narrowed
again. `Single` and `Double` keep only the words. Keeping the word rather than a
number means that every bit pattern, payloads of not-a-number included, passes
through columns unchanged; a `Float` to compute with has one such pattern alone.
-/

namespace PhotonFerry

/-- A single-precision value, held as its IEEE word. -/
structure Single where
  bits : UInt32
  deriving DecidableEq, Inhabited, Repr

/-- A double-precision value, held as its IEEE word. -/
structure Double where
  bits : UInt64
  deriving DecidableEq, Inhabited, Repr

namespace Double

/-- Join a sign bit, an exponent field and a fraction field. -/
def join (sign exponent fraction : Nat) : Double :=
  ⟨UInt64.ofNat (sign * twoTo 63 + exponent * twoTo 52 + fraction)⟩

/-- The double to compute with. -/
def toFloat (double : Double) : Float :=
  Float.ofBits double.bits

/-- The word of a double that was computed. -/
def ofFloat (value : Float) : Double :=
  ⟨value.toBits⟩

end Double

namespace Single

/-- The double with the same value. What is not a number keeps its sign and its
payload and becomes quiet. -/
def toDouble (single : Single) : Double :=
  let word := single.bits.toNat
  let sign := word / twoTo 31
  let exponent := word / twoTo 23 % twoTo 8
  let fraction := word % twoTo 23
  if exponent = 255 then
    if fraction = 0 then .join sign 2047 0
    else .join sign 2047 (twoTo 51 + fraction % twoTo 22 * twoTo 29)
  else if exponent = 0 then
    if fraction = 0 then .join sign 0 0
    else
      let top := fraction.log2
      .join sign (top + 874) ((fraction - twoTo top) * twoTo (52 - top))
  else .join sign (exponent + 896) (fraction * twoTo 29)

/-- The double with the same value, to compute with. -/
def widen (single : Single) : Float :=
  single.toDouble.toFloat

/-- The quotient rounded to the nearest whole number, a tie to the even neighbour. -/
def roundQuotient (numerator denominator : Nat) : Nat :=
  let quotient := numerator / denominator
  let twice := 2 * (numerator % denominator)
  if twice < denominator then quotient
  else if twice = denominator then quotient + quotient % 2
  else quotient + 1

end Single

/-- The nearest single, a tie to the even neighbour; what is too large becomes an
infinity. What is not a number keeps its sign and the front of its payload and
becomes quiet. -/
def Double.toSingle (double : Double) : Single :=
  let word := double.bits.toNat
  let sign := word / twoTo 63 * twoTo 31
  let exponent := word / twoTo 52 % twoTo 11
  let fraction := word % twoTo 52
  if exponent = 2047 then
    if fraction = 0 then ⟨UInt32.ofNat (sign + 0x7f800000)⟩
    else ⟨UInt32.ofNat (sign + 0x7fc00000 + fraction / twoTo 29 % twoTo 22)⟩
  else if exponent = 0 then
    -- Doubles without a leading one lie far below the least single.
    ⟨UInt32.ofNat sign⟩
  else
    let significand := twoTo 52 + fraction
    if 897 ≤ exponent then
      let magnitude := (exponent - 897) * twoTo 23 + Single.roundQuotient significand (twoTo 29)
      ⟨UInt32.ofNat (sign + min magnitude 0x7f800000)⟩
    else
      ⟨UInt32.ofNat (sign + Single.roundQuotient significand (twoTo (926 - exponent)))⟩

/-- The nearest single of a double that was computed. -/
def Single.narrow (value : Float) : Single :=
  (Double.ofFloat value).toSingle

end PhotonFerry
