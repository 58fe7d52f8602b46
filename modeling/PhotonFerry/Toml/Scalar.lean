import PhotonFerry.Number.Decimal
import PhotonFerry.Number.Digits
import PhotonFerry.Number.Word
import PhotonFerry.Toml.Item
/-!
# TOML words

How strings, numbers, dates and times, keys and line ends are written. Each
reader gives what it reads and the rest of the text, or nothing.
-/

namespace PhotonFerry.Toml

open Digits (readCodePoint readMark)

/-! ## Lines -/

/-- A blank within a line. -/
def isLineBlank (char : Char) : Bool :=
  char = ' ' || char = '\t'

/-- A text without the blanks at its front. -/
def skipLineBlanks (text : List Char) : List Char :=
  text.dropWhile isLineBlank

/-- A character that may stand in a comment. -/
def isCommentChar (char : Char) : Bool :=
  char = '\t' || (' ' ≤ char && char ≤ '~') || 0x80 ≤ char.toNat

/-- A text in which every line break is a single character. -/
def joinLineBreaks : List Char → List Char
  | '\r' :: '\n' :: rest => '\n' :: joinLineBreaks rest
  | char :: rest => char :: joinLineBreaks rest
  | [] => []

/-- Read a line break. -/
def readLineBreak : List Char → Option (List Char)
  | '\n' :: rest => some rest
  | _ => none

/-- A text without the comment at its front. -/
def skipComment : List Char → List Char
  | '#' :: rest => rest.dropWhile isCommentChar
  | other => other

/-- Read the end of a line: blanks, a comment, and a line break or the end of the text. -/
def readLineEnd (text : List Char) : Option (List Char) :=
  match skipComment (skipLineBlanks text) with
  | [] => some []
  | rest => readLineBreak rest

/-- A text without the blanks, line breaks and comments at its front, as far as
`fuel` allows; none if a comment does not end with its line. -/
def skipGaps : (fuel : Nat) → List Char → Option (List Char)
  | 0, text => some text
  | fuel + 1, text =>
    let inner := skipLineBlanks text
    match inner with
    | '#' :: rest =>
      match rest.dropWhile isCommentChar with
      | [] => some []
      | after => (readLineBreak after).bind (skipGaps fuel)
    | _ =>
      match readLineBreak inner with
      | some rest => skipGaps fuel rest
      | none => some inner

/-! ## Strings -/

/-- Read what follows a backslash. -/
def readEscape : List Char → Option (Char × List Char)
  | 'b' :: rest => some ('\x08', rest)
  | 't' :: rest => some ('\t', rest)
  | 'n' :: rest => some ('\n', rest)
  | 'f' :: rest => some ('\x0c', rest)
  | 'r' :: rest => some ('\r', rest)
  | '"' :: rest => some ('"', rest)
  | '\\' :: rest => some ('\\', rest)
  | 'u' :: rest => readCodePoint 4 rest
  | 'U' :: rest => readCodePoint 8 rest
  | _ => none

/-- A backslash at the end of a line hides the blanks and line breaks behind it. -/
def readHiddenBreak (text : List Char) : Option (List Char) :=
  (readLineBreak (skipLineBlanks text)).map fun rest =>
    rest.dropWhile fun char => isLineBlank char || char = '\n'

/-- The kinds of string: whether escapes count, and whether it has several lines. -/
structure StringForm where
  quote : Char
  escapes : Bool
  multiline : Bool

/-- Whether a run of quotes ends a string of several lines. -/
def closingRun (form : StringForm) (text : List Char) : Nat :=
  min 5 (text.takeWhile (· = form.quote)).length

/-- Read the inside of a string up to its closing quotes, as far as `fuel` allows. -/
def readInside (form : StringForm) : (fuel : Nat) → List Char → Option (List Char × List Char)
  | 0, _ => none
  | _, [] => none
  | fuel + 1, char :: rest =>
    if char = form.quote then
      if form.multiline then
        let run := closingRun form (char :: rest)
        if 3 ≤ run then
          some (List.replicate (run - 3) form.quote, (char :: rest).drop run)
        else do
          let (inside, after) ← readInside form fuel rest
          some (char :: inside, after)
      else some ([], rest)
    else if char = '\\' ∧ form.escapes then
      match if form.multiline then readHiddenBreak rest else none with
      | some after => readInside form fuel after
      | none => do
        let (value, after) ← readEscape rest
        let (inside, after) ← readInside form fuel after
        some (value :: inside, after)
    else if char = '\n' then
      if form.multiline then do
        let (inside, after) ← readInside form fuel rest
        some (char :: inside, after)
      else none
    else if isCommentChar char then do
      let (inside, after) ← readInside form fuel rest
      some (char :: inside, after)
    else none

/-- Read a string. A line break right behind the opening of a string of several
lines does not count. -/
def readString (text : List Char) : Option (String × List Char) := do
  let (form, rest) ←
    match text with
    | '"' :: '"' :: '"' :: rest => some (⟨'"', true, true⟩, rest)
    | '\'' :: '\'' :: '\'' :: rest => some (⟨'\'', false, true⟩, rest)
    | '"' :: rest => some (⟨'"', true, false⟩, rest)
    | '\'' :: rest => some (⟨'\'', false, false⟩, rest)
    | _ => none
  let rest := if form.multiline then (readLineBreak rest).getD rest else rest
  let (inside, after) ← readInside form (rest.length + 1) rest
  some (String.ofList inside, after)

/-! ## Keys -/

/-- A character of a key without quotes. -/
def isBareChar (char : Char) : Bool :=
  char.isAlphanum || char = '_' || char = '-'

/-- Read one key of a dotted key. -/
def readSimpleKey (text : List Char) : Option (String × List Char) :=
  match text with
  | '"' :: rest =>
    (readInside ⟨'"', true, false⟩ (rest.length + 1) rest).map fun (inside, after) =>
      (String.ofList inside, after)
  | '\'' :: rest =>
    (readInside ⟨'\'', false, false⟩ (rest.length + 1) rest).map fun (inside, after) =>
      (String.ofList inside, after)
  | _ =>
    let bare := text.takeWhile isBareChar
    if bare.isEmpty then none else some (String.ofList bare, text.dropWhile isBareChar)

/-- Read a dotted key with the blanks around its parts, as far as `fuel` allows. -/
def readKeys : (fuel : Nat) → List Char → Option (List String × List Char)
  | 0, _ => none
  | fuel + 1, text => do
    let (key, rest) ← readSimpleKey (skipLineBlanks text)
    match skipLineBlanks rest with
    | '.' :: after =>
      let (keys, after) ← readKeys fuel after
      some (key :: keys, after)
    | after => some ([key], after)

/-- The largest number of parts of a dotted key, and of values in each other. -/
def depthLimit : Nat := 79

/-- Read a dotted key. -/
def readKey (text : List Char) : Option (List String × List Char) :=
  readKeys depthLimit text

/-! ## Numbers -/

/-- Read digits of a radix, with single underscores between them. -/
def readDigitRun (radix : Nat) : List Char → Option (List Char × List Char)
  | [] => none
  | [char] => if Digits.isDigitOf radix char then some ([char], []) else none
  | char :: next :: rest =>
    if !Digits.isDigitOf radix char then none
    else if next = '_' then
      (readDigitRun radix rest).map fun (digits, after) => (char :: digits, after)
    else
      match readDigitRun radix (next :: rest) with
      | some (digits, after) => some (char :: digits, after)
      | none => some ([char], next :: rest)

/-- Read a sign, where there is one. -/
def readPlusMinus : List Char → List Char × List Char
  | '+' :: rest => (['+'], rest)
  | '-' :: rest => (['-'], rest)
  | other => ([], other)

/-- Read a decimal integer with its sign: a zero stands alone. -/
def readDecimalInteger (text : List Char) : Option (List Char × List Char) := do
  let (sign, unsigned) := readPlusMinus text
  match unsigned with
  | '0' :: rest => some (sign ++ ['0'], rest)
  | _ =>
    let (digits, rest) ← readDigitRun 10 unsigned
    some (sign ++ digits, rest)

/-- Read the fraction of a float with its point. -/
def readFraction : List Char → Option (List Char × List Char)
  | '.' :: rest => (readDigitRun 10 rest).map fun (digits, after) => ('.' :: digits, after)
  | _ => none

/-- Read the exponent of a float with its mark. -/
def readFloatExponent : List Char → Option (List Char × List Char)
  | mark :: rest =>
    if mark = 'e' ∨ mark = 'E' then do
      let (sign, unsigned) := readPlusMinus rest
      let (digits, after) ← readDigitRun 10 unsigned
      some ('e' :: sign ++ digits, after)
    else none
  | [] => none

/-- Read a float that is written with digits; it must not be too large. -/
def readDecimalFloat (text : List Char) : Option (Float × List Char) := do
  let (whole, rest) ← readDecimalInteger text
  let (tail, after) ←
    match readFraction rest with
    | some (fraction, after) =>
      match readFloatExponent after with
      | some (exponent, after) => some (fraction ++ exponent, after)
      | none => some (fraction, after)
    | none => readFloatExponent rest
  let value := (← Decimal.ofText? (whole ++ tail)).toFloat
  if value == 1.0 / 0.0 then none else some (value, after)

/-- Read an infinity or a not-a-number. -/
def readSpecialFloat (text : List Char) : Option (Float × List Char) :=
  let (sign, unsigned) := readPlusMinus text
  let negate (value : Float) : Float := if sign = ['-'] then -value else value
  match unsigned with
  | 'i' :: 'n' :: 'f' :: rest => some (negate (1.0 / 0.0), rest)
  | 'n' :: 'a' :: 'n' :: rest => some (negate (0.0 / 0.0), rest)
  | _ => none

/-- Whether an integer fits the width of a document's integers. -/
def fitsInteger (value : Int) : Bool :=
  Word.isSigned 64 value

/-- Read digits of a radix as an integer. -/
def readRadixInteger (radix : Nat) (text : List Char) : Option (Int × List Char) := do
  let (digits, rest) ← readDigitRun radix text
  let value : Int := Digits.number radix (digits.filterMap Digits.value?)
  if fitsInteger value then some (value, rest) else none

/-- Read an integer. -/
def readInteger (text : List Char) : Option (Int × List Char) :=
  match text with
  | '0' :: 'x' :: rest => readRadixInteger 16 rest
  | '0' :: 'o' :: rest => readRadixInteger 8 rest
  | '0' :: 'b' :: rest => readRadixInteger 2 rest
  | _ => do
    let (written, rest) ← readDecimalInteger text
    let (sign, digits) := readPlusMinus written
    let size : Int := Decimal.digitsValue digits
    let value := if sign = ['-'] then -size else size
    if fitsInteger value then some (value, rest) else none

/-! ## Dates and times -/

/-- Read a number of exactly `width` digits within bounds. -/
def readBounded (width low high : Nat) (text : List Char) : Option (Nat × List Char) :=
  let digits := text.take width
  let value := Decimal.digitsValue digits
  if digits.length < width ∨ !digits.all Char.isDigit then none
  else if low ≤ value ∧ value ≤ high then some (value, text.drop width)
  else none

/-- The number of days of a month. -/
def daysOf (year month : Nat) : Nat :=
  if month = 2 then
    if year % 4 = 0 ∧ (year % 100 ≠ 0 ∨ year % 400 = 0) then 29 else 28
  else if [4, 6, 9, 11].contains month then 30
  else 31

/-- Read a date. -/
def readDate (text : List Char) : Option (List Char) := do
  let (year, rest) ← readBounded 4 0 9999 text
  let (month, rest) ← readBounded 2 1 12 (← readMark '-' rest)
  let (_, rest) ← readBounded 2 1 (daysOf year month) (← readMark '-' rest)
  some rest

/-- Read a time of day. -/
def readTime (text : List Char) : Option (List Char) := do
  let (_, rest) ← readBounded 2 0 23 text
  let (_, rest) ← readBounded 2 0 59 (← readMark ':' rest)
  let (_, rest) ← readBounded 2 0 60 (← readMark ':' rest)
  match rest with
  | '.' :: after =>
    if (after.takeWhile Char.isDigit).isEmpty then none else some (after.dropWhile Char.isDigit)
  | _ => some rest

/-- Read the offset of a time zone, where there is one. -/
def readOffset (text : List Char) : Option (List Char) :=
  match text with
  | 'Z' :: rest => some rest
  | 'z' :: rest => some rest
  | sign :: rest =>
    if sign = '+' ∨ sign = '-' then do
      let (_, rest) ← readBounded 2 0 23 rest
      let (_, rest) ← readBounded 2 0 59 (← readMark ':' rest)
      some rest
    else some text
  | [] => some []

/-- Read the time behind a date, where there is one. -/
def readTimeBehind (text : List Char) : Option (List Char) :=
  match text with
  | mark :: rest =>
    if mark = 'T' ∨ mark = 't' then do readOffset (← readTime rest)
    else if mark = ' ' then
      match readTime rest with
      | some after => readOffset after
      | none => some text
    else some text
  | [] => some []

/-- Read a date, a time or both. -/
def readMoment (text : List Char) : Option (String × List Char) :=
  let rest? :=
    match readDate text with
    | some rest => readTimeBehind rest
    | none => readTime text
  rest?.map fun rest => (String.ofList (text.take (text.length - rest.length)), rest)

end PhotonFerry.Toml
