import PhotonFerry.Number.Word
/-!
# The parts of a double

A finite double is a whole number of units of a power of two. `parts` takes a
double apart into that form, in which its text can be computed exactly.
-/

namespace PhotonFerry.Binary

/-- What a double is. -/
inductive Parts where
  | notANumber
  | infinite (negative : Bool)
  /-- The number `± significand · 2 ^ exponent`. -/
  | finite (negative : Bool) (significand : Nat) (exponent : Int)
  deriving DecidableEq, Repr

/-- Take a double apart. -/
def parts (value : Float) : Parts :=
  let word := value.toBits.toNat
  let negative := decide (twoTo 63 ≤ word)
  let exponent : Nat := word / twoTo 52 % twoTo 11
  let fraction := word % twoTo 52
  if exponent = 2047 then
    if fraction = 0 then .infinite negative else .notANumber
  else if exponent = 0 then .finite negative fraction (-1074)
  else .finite negative (twoTo 52 + fraction) ((exponent : Int) - 1075)

/-- The quotient of two numbers that equals `significand · 2 ^ exponent`. -/
def fractionOf (significand : Nat) (exponent : Int) : Nat × Nat :=
  match exponent with
  | .ofNat up => (significand * twoTo up, 1)
  | .negSucc down => (significand, twoTo (down + 1))

end PhotonFerry.Binary
