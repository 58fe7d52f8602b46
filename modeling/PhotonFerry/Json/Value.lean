/-!
# JSON values

The tree of a JSON text. A number keeps its written form, since readers differ
in what they make of it, and a string whose escapes name no text is kept as one
without a text: only who asks for the text has to refuse it.
-/

namespace PhotonFerry.Json

/-- A number as it is written; digits are ASCII digits. -/
structure Number where
  negative : Bool := false
  whole : List Char
  fraction : List Char := []
  /-- Whether the exponent is negative, and its digits. -/
  exponent : Option (Bool × List Char) := none
  deriving DecidableEq, Repr

/-- A JSON value. -/
inductive Value where
  | null
  | boolean (value : Bool)
  | number (value : Number)
  | string (value : Option String)
  | array (items : List Value)
  | object (members : List (Option String × Value))

end PhotonFerry.Json
