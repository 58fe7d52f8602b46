/-!
# Digits

The ASCII digits of both letter cases for radices up to 16, and the marks that
stand between numbers.
-/

namespace PhotonFerry.Digits

/-- The value of a hexadecimal digit. -/
def value? (char : Char) : Option Nat :=
  if '0' ≤ char ∧ char ≤ '9' then some (char.toNat - '0'.toNat)
  else if 'a' ≤ char ∧ char ≤ 'f' then some (char.toNat - 'a'.toNat + 10)
  else if 'A' ≤ char ∧ char ≤ 'F' then some (char.toNat - 'A'.toNat + 10)
  else none

/-- Whether a character is a digit of a radix. -/
def isDigitOf (radix : Nat) (char : Char) : Bool :=
  (value? char).any (· < radix)

/-- The digits of a radix at the front of a text, and what follows them. -/
def span (radix : Nat) (text : List Char) : List Nat × List Char :=
  ((text.takeWhile (isDigitOf radix)).filterMap value?, text.dropWhile (isDigitOf radix))

/-- The number that digits of a radix spell. -/
def number (radix : Nat) (digits : List Nat) : Nat :=
  digits.foldl (fun value digit => value * radix + digit) 0

/-- Read the character that hexadecimal digits of a fixed number spell. -/
def readCodePoint (width : Nat) (text : List Char) : Option (Char × List Char) :=
  let digits := text.take width
  let value := number 16 (digits.filterMap value?)
  if digits.length < width ∨ !digits.all (isDigitOf 16) then none
  else if value.isValidChar then some (Char.ofNat value, text.drop width)
  else none

/-- Read one given character. -/
def readMark (mark : Char) : List Char → Option (List Char)
  | [] => none
  | char :: rest => if char = mark then some rest else none

end PhotonFerry.Digits
