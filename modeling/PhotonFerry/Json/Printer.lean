import PhotonFerry.Json.Value
import PhotonFerry.Number.Fixed
import PhotonFerry.Number.Shortest
/-!
# Writing JSON

Values are written over several lines, each level indented by two blanks. A
double is written with the fewest digits that read back: positionally while the
point stands next to or between digits, and otherwise with an exponent, which
always has its sign.
-/

namespace PhotonFerry.Json

namespace Number

/-- An unsigned integer. -/
def ofNat (value : Nat) : Number where
  whole := Nat.toDigits 10 value

/-- The largest number of digits before the point of a positional number. -/
def mostWhole : Int := 16

/-- The least number of zeros behind the point that calls for an exponent. -/
def mostZeros : Int := 5

/-- The written form of some digits times a power of ten. -/
def ofDecimal (negative : Bool) (number : Nat) (power : Int) : Number :=
  let digits := Nat.toDigits 10 number
  let point := (digits.length : Int) + power
  if 0 ≤ power ∧ point ≤ mostWhole then
    ⟨negative, digits ++ List.replicate power.toNat '0', ['0'], none⟩
  else if 0 < point ∧ point ≤ mostWhole then
    ⟨negative, digits.take point.toNat, digits.drop point.toNat, none⟩
  else if -mostZeros < point ∧ point ≤ 0 then
    ⟨negative, ['0'], List.replicate point.natAbs '0' ++ digits, none⟩
  else
    let exponent := point - 1
    ⟨negative, digits.take 1, digits.drop 1,
      some (decide (exponent < 0), Nat.toDigits 10 exponent.natAbs)⟩

/-- The written form of a double, if it is finite. -/
def ofFloat? (value : Float) : Option Number :=
  match Binary.parts value with
  | .finite negative significand exponent =>
    if significand = 0 then some ⟨negative, ['0'], ['0'], none⟩
    else
      let (digits, power) := Shortest.decimal significand exponent
      some (ofDecimal negative digits power)
  | _ => none

/-- The text of a number. -/
def text (number : Number) : String :=
  String.ofList <|
    (if number.negative then ['-'] else []) ++ number.whole
      ++ (if number.fraction.isEmpty then [] else '.' :: number.fraction)
      ++ match number.exponent with
        | none => []
        | some (down, digits) => 'e' :: (if down then '-' else '+') :: digits

end Number

namespace Value

/-- An unsigned integer. -/
def ofNat (value : Nat) : Value := .number (.ofNat value)

/-- A text. -/
def ofString (value : String) : Value := .string (some value)

/-- A double; one that is not finite has no number. -/
def ofFloat (value : Float) : Value :=
  match Number.ofFloat? value with
  | some written => .number written
  | none => .null

/-- An object. -/
def ofMembers (members : List (String × Value)) : Value :=
  .object (members.map fun (name, value) => (some name, value))

end Value

/-- A code unit as an escape. -/
def unitEscape (unit : Nat) : List Char :=
  let digits := Nat.toDigits 16 unit
  '\\' :: 'u' :: (List.replicate (4 - digits.length) '0' ++ digits)

/-- A character as it stands in a string. -/
def escaped (char : Char) : List Char :=
  if char = '"' then ['\\', '"']
  else if char = '\\' then ['\\', '\\']
  else if char = '\x08' then ['\\', 'b']
  else if char = '\x0c' then ['\\', 'f']
  else if char = '\n' then ['\\', 'n']
  else if char = '\r' then ['\\', 'r']
  else if char = '\t' then ['\\', 't']
  else if char.toNat < 32 then unitEscape char.toNat
  else [char]

/-- A string with its quotes. A string without a text is written as an escape
that names none. -/
def quoted (value : Option String) : String :=
  let inner :=
    match value with
    | some text => text.toList.flatMap escaped
    | none => unitEscape 0xd800
  String.ofList ('"' :: inner ++ ['"'])

/-- The blanks before a line at some depth, behind the end of the line before. -/
def newLine (depth : Nat) : String :=
  String.ofList ('\n' :: List.replicate (2 * depth) ' ')

/-- Lines between an opening and a closing mark, at some depth. -/
def enclosed (opening closing : String) (depth : Nat) (lines : List String) : String :=
  if lines.isEmpty then opening ++ closing
  else
    opening ++ newLine (depth + 1) ++ String.intercalate ("," ++ newLine (depth + 1)) lines
      ++ newLine depth ++ closing

namespace Value

mutual

/-- The text of a value at some depth. -/
def textAt (depth : Nat) : Value → String
  | null => "null"
  | boolean value => if value then "true" else "false"
  | number value => value.text
  | string value => quoted value
  | array items => enclosed "[" "]" depth (itemTexts depth items)
  | object members => enclosed "\x7b" "\x7d" depth (memberTexts depth members)

/-- The texts of the items of an array at some depth. -/
def itemTexts (depth : Nat) : List Value → List String
  | [] => []
  | item :: rest => textAt (depth + 1) item :: itemTexts depth rest

/-- The texts of the members of an object at some depth. -/
def memberTexts (depth : Nat) : List (Option String × Value) → List String
  | [] => []
  | (name, value) :: rest =>
    (quoted name ++ ": " ++ textAt (depth + 1) value) :: memberTexts depth rest

end

/-- The text of a value. -/
def text (value : Value) : String := textAt 0 value

end Value

end PhotonFerry.Json
