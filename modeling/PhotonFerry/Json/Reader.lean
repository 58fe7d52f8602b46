import PhotonFerry.Json.Value
import PhotonFerry.Number.Digits
/-!
# Reading JSON

`Value.ofText?` reads a whole text in the grammar of JSON and nothing beyond it.
Nesting is bounded by the length of the text, which is what the recursion runs on.
-/

namespace PhotonFerry.Json

/-- A blank between tokens. -/
def isBlank (char : Char) : Bool :=
  char = ' ' || char = '\n' || char = '\t' || char = '\r'

/-- A text without the blanks at its front. -/
def skipBlanks (text : List Char) : List Char :=
  text.dropWhile isBlank

/-- The rest of a text behind a given beginning. -/
def stripLiteral? (literal text : List Char) : Option (List Char) :=
  if literal.isPrefixOf text then some (text.drop literal.length) else none

/-- A part of a string: a character, or a code unit that an escape names. -/
inductive Piece where
  | char (value : Char)
  | unit (value : Nat)
  deriving DecidableEq, Repr

/-- Read four hexadecimal digits. -/
def readHex4 : List Char → Option (Nat × List Char)
  | a :: b :: c :: d :: rest => do
    let a ← Digits.value? a
    let b ← Digits.value? b
    let c ← Digits.value? c
    let d ← Digits.value? d
    some (((a * 16 + b) * 16 + c) * 16 + d, rest)
  | _ => none

/-- Read what follows a backslash. -/
def readEscape : List Char → Option (Piece × List Char)
  | [] => none
  | mark :: rest =>
    if mark = '"' ∨ mark = '\\' ∨ mark = '/' then some (.char mark, rest)
    else if mark = 'b' then some (.char '\x08', rest)
    else if mark = 'f' then some (.char '\x0c', rest)
    else if mark = 'n' then some (.char '\n', rest)
    else if mark = 'r' then some (.char '\r', rest)
    else if mark = 't' then some (.char '\t', rest)
    else if mark = 'u' then (readHex4 rest).map fun (value, after) => (.unit value, after)
    else none

/-- Read the pieces of a string behind its opening quote, as far as `fuel` allows. -/
def readPieces : (fuel : Nat) → List Char → Option ((List Piece) × List Char)
  | 0, _ => none
  | _, [] => none
  | fuel + 1, char :: rest =>
    if char = '"' then some ([], rest)
    else if char = '\\' then do
      let (piece, after) ← readEscape rest
      let (pieces, after) ← readPieces fuel after
      some (piece :: pieces, after)
    else if char.toNat < 32 then none
    else do
      let (pieces, after) ← readPieces fuel rest
      some (.char char :: pieces, after)

/-- A code unit that must be the first of a pair. -/
def isLeading (unit : Nat) : Bool := 0xd800 ≤ unit && unit ≤ 0xdbff

/-- A code unit that must be the second of a pair. -/
def isTrailing (unit : Nat) : Bool := 0xdc00 ≤ unit && unit ≤ 0xdfff

/-- The characters of the pieces of a string; none if a code unit stands alone
that must not. -/
def joinPieces : List Piece → Option (List Char)
  | [] => some []
  | .char value :: rest => (joinPieces rest).map (value :: ·)
  | [.unit value] =>
    if isLeading value || isTrailing value then none else some [Char.ofNat value]
  | .unit value :: .unit next :: rest =>
    if isTrailing value then none
    else if isLeading value then
      if isTrailing next then
        (joinPieces rest).map
          (Char.ofNat (0x10000 + (value - 0xd800) * 1024 + (next - 0xdc00)) :: ·)
      else none
    else (joinPieces (.unit next :: rest)).map (Char.ofNat value :: ·)
  | .unit value :: .char next :: rest =>
    if isLeading value || isTrailing value then none
    else (joinPieces rest).map fun chars => Char.ofNat value :: next :: chars

/-- Read a string behind its opening quote. -/
def readString (text : List Char) : Option ((Option String) × List Char) := do
  let (pieces, rest) ← readPieces (text.length + 1) text
  some ((joinPieces pieces).map String.ofList, rest)

/-- Read at least one digit. -/
def readDigits (text : List Char) : Option ((List Char) × List Char) :=
  let digits := text.takeWhile Char.isDigit
  if digits.isEmpty then none else some (digits, text.dropWhile Char.isDigit)

/-- Read the digits before the point: a zero stands alone. -/
def readWhole (text : List Char) : Option ((List Char) × List Char) := do
  let (digits, rest) ← readDigits text
  if digits.head? = some '0' ∧ 1 < digits.length then none else some (digits, rest)

/-- Read the exponent of a number, if it has one. -/
def readExponent (text : List Char) : Option ((Option (Bool × List Char)) × List Char) :=
  match text with
  | mark :: rest =>
    if mark = 'e' ∨ mark = 'E' then do
      let (down, unsigned) :=
        match rest with
        | '-' :: after => (true, after)
        | '+' :: after => (false, after)
        | other => (false, other)
      let (digits, after) ← readDigits unsigned
      some (some (down, digits), after)
    else some (none, text)
  | [] => some (none, [])

/-- Read a number. -/
def readNumber (text : List Char) : Option (Number × List Char) := do
  let (negative, unsigned) :=
    match text with
    | '-' :: rest => (true, rest)
    | other => (false, other)
  let (whole, rest) ← readWhole unsigned
  let (fraction, rest) ←
    match rest with
    | '.' :: after => readDigits after
    | other => some ([], other)
  let (exponent, rest) ← readExponent rest
  some (⟨negative, whole, fraction, exponent⟩, rest)

/-- Read items with commas between them up to the closing mark, as far as `fuel` allows. -/
def readItems {α : Type} (readItem : List Char → Option (α × List Char)) (closing : Char) :
    (fuel : Nat) → List Char → Option ((List α) × List Char)
  | 0, _ => none
  | fuel + 1, text => do
    let (item, rest) ← readItem (skipBlanks text)
    match skipBlanks rest with
    | mark :: after =>
      if mark = closing then some ([item], after)
      else if mark = ',' then
        let (items, after) ← readItems readItem closing fuel after
        some (item :: items, after)
      else none
    | [] => none

/-- Read the items of an array or object behind its opening mark. -/
def readSequence {α : Type} (readItem : List Char → Option (α × List Char)) (closing : Char)
    (text : List Char) : Option ((List α) × List Char) :=
  match skipBlanks text with
  | [] => none
  | mark :: after =>
    if mark = closing then some ([], after)
    else readItems readItem closing (text.length + 1) text

/-- Read a member of an object. -/
def readMember {α : Type} (readItem : List Char → Option (α × List Char)) (text : List Char) :
    Option ((Option String × α) × List Char) :=
  match text with
  | '"' :: rest => do
    let (name, rest) ← readString rest
    match skipBlanks rest with
    | ':' :: after =>
      let (value, rest) ← readItem (skipBlanks after)
      some ((name, value), rest)
    | _ => none
  | _ => none

/-- Read a value nested at most `depth` deep. -/
def readValue : (depth : Nat) → List Char → Option (Value × List Char)
  | 0, _ => none
  | _, [] => none
  | depth + 1, mark :: rest =>
    if mark = '"' then (readString rest).map fun (value, after) => (.string value, after)
    else if mark = '[' then
      (readSequence (readValue depth) ']' rest).map fun (items, after) => (.array items, after)
    else if mark = '\x7b' then
      (readSequence (readMember (readValue depth)) '\x7d' rest).map fun (members, after) =>
        (.object members, after)
    else
      match stripLiteral? "null".toList (mark :: rest),
          stripLiteral? "true".toList (mark :: rest),
          stripLiteral? "false".toList (mark :: rest) with
      | some after, _, _ => some (.null, after)
      | _, some after, _ => some (.boolean true, after)
      | _, _, some after => some (.boolean false, after)
      | _, _, _ => (readNumber (mark :: rest)).map fun (value, after) => (.number value, after)

/-- The value that a whole text holds. -/
def Value.ofText? (text : String) : Option Value :=
  let chars := text.toList
  match readValue (chars.length + 1) (skipBlanks chars) with
  | some (value, rest) => if (skipBlanks rest).isEmpty then some value else none
  | none => none

end PhotonFerry.Json
