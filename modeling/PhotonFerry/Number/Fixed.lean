import PhotonFerry.Number.Binary
import PhotonFerry.Number.Single
import PhotonFerry.Number.Word
/-!
# Numbers with a fixed number of places

Reports show coordinates with a fixed number of digits behind the point: the
exact value rounded to the nearest such number, a tie to the even digit. The sign
is that of the value, also where only zeros are left of it.
-/

namespace PhotonFerry.Fixed

/-- The decimal digits of a number, with zeros in front up to a width. -/
def padded (width number : Nat) : List Char :=
  let digits := Nat.toDigits 10 number
  List.replicate (width - digits.length) '0' ++ digits

/-- The text of a number of units of the given decimal place. -/
def textOfUnits (places units : Nat) : String :=
  let digits := padded (places + 1) units
  let (whole, fraction) := digits.splitAt (digits.length - places)
  if places = 0 then String.ofList whole
  else String.ofList whole ++ "." ++ String.ofList fraction

/-- The text of a double with the given number of places. -/
def text (places : Nat) (value : Float) : String :=
  match Binary.parts value with
  | .notANumber => "NaN"
  | .infinite negative => if negative then "-inf" else "inf"
  | .finite negative significand exponent =>
    let (numerator, denominator) := Binary.fractionOf significand exponent
    let units := Single.roundQuotient (numerator * tenTo places) denominator
    (if negative then "-" else "") ++ textOfUnits places units

end PhotonFerry.Fixed
