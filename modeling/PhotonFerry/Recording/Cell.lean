import PhotonFerry.Number.Extended
import PhotonFerry.Number.Word
/-!
# Cells of a stored table

A cell holds one of five kinds of value, whatever its column declares. A
declared column bends what is stored towards its own kind where nothing is lost
by it: text that spells a number becomes that number, a whole real in an integer
column becomes an integer, and an integer in a real column becomes a real.
-/

namespace PhotonFerry.Recording

/-- One stored value. -/
inductive Cell where
  | null
  | integer (value : Int)
  | real (value : Float)
  | text (value : String)
  | blob (value : ByteArray)

namespace Cell

/-- The name of a cell's kind in reports. -/
def kindName : Cell → String
  | null => "Null"
  | integer _ => "Integer"
  | real _ => "Real"
  | text _ => "Text"
  | blob _ => "Blob"

/-- The cell of a double. A not-a-number is no value. -/
def ofFloat (value : Float) : Cell :=
  if value.isNaN then null else real value

end Cell

/-- Whether a number fits a stored integer. -/
def isStoredInteger (value : Int) : Bool :=
  Word.isSigned 64 value

/-- The integer that a double equals, if it is safely inside the stored range. -/
def integerOfReal? (value : Float) : Option Int :=
  if value.abs < 9223372036854775807.0 then
    let whole := value.toInt64.toInt
    if Float.ofInt whole == value ∧ -(twoTo 63 : Int) < whole then some whole else none
  else none

/-- A blank in a stored text. -/
def isTextBlank (char : Char) : Bool :=
  char = ' ' || (9 ≤ char.toNat && char.toNat ≤ 13)

/-- A text without the blanks around it. -/
def trimBlanks (text : String) : List Char :=
  ((text.toList.dropWhile isTextBlank).reverse.dropWhile isTextBlank).reverse

/-- The number that a text spells: an integer where it is written as one and
fits, a real otherwise. -/
def numberOfText? (text : String) : Option Cell :=
  let trimmed := trimBlanks text
  match Decimal.ofText? trimmed with
  | none => none
  | some decimal =>
    let whole : Int := if decimal.negative then -decimal.digits else decimal.digits
    let unsigned := (Decimal.readSign trimmed).2
    if unsigned.all Char.isDigit ∧ isStoredInteger whole then some (.integer whole)
    else some (.real decimal.toFloatByLeading)

/-- What a column declares about its values. -/
inductive Affinity where
  | integer
  | real
  /-- Nothing is bent. -/
  | anything
  deriving DecidableEq, Repr

/-- Bend a number towards whole numbers. -/
def bendToInteger : Cell → Cell
  | .real value => ((integerOfReal? value).map Cell.integer).getD (.real value)
  | other => other

/-- Bend a number towards reals; the sign of zero is not kept. -/
def bendToReal : Cell → Cell
  | .integer value => .real (Float.ofInt value)
  | .real value => .real (if value == 0.0 then 0.0 else value)
  | other => other

/-- The number that a text cell spells, or the cell as it is. -/
def readNumber : Cell → Cell
  | .text value => (numberOfText? value).getD (.text value)
  | other => other

/-- What a column with the given declaration keeps of a value. -/
def Affinity.bend : Affinity → Cell → Cell
  | integer, cell => bendToInteger (readNumber cell)
  | real, cell => bendToReal (readNumber cell)
  | anything, cell => cell

end PhotonFerry.Recording
