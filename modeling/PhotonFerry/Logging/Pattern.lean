import PhotonFerry.Number.Digits
/-!
# The patterns of filters

The value of a field in a filter can be a regular expression. Since no record ever
has such a field, all that counts is whether a text is one: its groups and character
classes are closed, each repetition has something to repeat, and each backslash
begins an escape. Repetitions by number, word boundaries and references back to
groups are no part of the language.
-/

namespace PhotonFerry.LogPattern

/-- What an escape stands for. -/
inductive Escaped where
  | literal (char : Char)
  /-- A set of characters. -/
  | set
  /-- The beginning or the end of the text. -/
  | edge

/-- Read the character that hexadecimal digits of a fixed number spell. -/
def readCodePoint (width : Nat) (text : List Char) : Option (Escaped × List Char) :=
  (Digits.readCodePoint width text).map fun (char, rest) => (.literal char, rest)

/-- The letters behind a backslash that stand for sets of characters. -/
def setLetters : List Char := ['d', 'D', 's', 'S', 'w', 'W']

/-- The letters behind a backslash that stand for single characters. -/
def controlLetters : List (Char × Char) :=
  [('a', '\x07'), ('f', '\x0c'), ('t', '\t'), ('n', '\n'), ('r', '\r'), ('v', '\x0b')]

/-- The one-letter names of general categories. -/
def categoryLetters : List Char := ['C', 'L', 'M', 'N', 'P', 'S', 'Z']

/-- Read what follows a backslash. -/
def readEscape : List Char → Option (Escaped × List Char)
  | [] => none
  | letter :: rest =>
    if setLetters.contains letter then some (.set, rest)
    else if letter = 'A' || letter = 'z' then some (.edge, rest)
    else if letter = 'x' then readCodePoint 2 rest
    else if letter = 'u' then readCodePoint 4 rest
    else if letter = 'U' then readCodePoint 8 rest
    else if letter = 'p' || letter = 'P' then
      match rest with
      | category :: rest => if categoryLetters.contains category then some (.set, rest) else none
      | [] => none
    else
      match controlLetters.lookup letter with
      | some char => some (.literal char, rest)
      | none =>
        if letter.toNat < 128 && !letter.isAlphanum && letter ≠ '<' && letter ≠ '>' then
          some (.literal letter, rest)
        else none

/-- The names of classes between colons. -/
def classNames : List String :=
  ["alnum", "alpha", "ascii", "blank", "cntrl", "digit", "graph", "lower", "print", "punct",
    "space", "upper", "word", "xdigit"]

/-- Read a class by its name, behind the opening bracket. -/
def readNamedClass : List Char → Option (List Char)
  | ':' :: rest =>
    let rest := if rest.head? = some '^' then rest.tail else rest
    let name := rest.takeWhile (· ≠ ':')
    match rest.drop name.length with
    | ':' :: ']' :: rest => if classNames.contains (String.ofList name) then some rest else none
    | _ => none
  | _ => none

/-- The beginning of a class behind its bracket: a caret, and dashes or a closing
bracket that stand for themselves. -/
def skipClassHead (text : List Char) : List Char :=
  let text := if text.head? = some '^' then text.tail else text
  match text.dropWhile (· = '-') with
  | ']' :: rest => if text.head? = some '-' then ']' :: rest else rest
  | rest => rest

/-- Read one character of a class or an escape that stands for characters. -/
def readClassItem : List Char → Option (Option Char × List Char)
  | [] => none
  | '\\' :: rest =>
    match readEscape rest with
    | some (.literal char, rest) => some (some char, rest)
    | some (.set, rest) => some (none, rest)
    | _ => none
  | char :: rest => some (some char, rest)

/-- Read an item of a class, or a range between two characters. -/
def readClassRange (text : List Char) : Option (List Char) :=
  match readClassItem text with
  | none => none
  | some (low, rest) =>
    match rest with
    | '-' :: next :: _ =>
      if next = ']' || next = '-' then some rest
      else
        match low, readClassItem rest.tail with
        | some low, some (some high, rest) => if low ≤ high then some rest else none
        | _, _ => none
    | _ => some rest

/-- Read classes up to the end of the outermost of the open ones, whose number is
`depth`; each step takes some fuel. -/
def readClass : (fuel depth : Nat) → List Char → Option (List Char)
  | 0, _, _ => none
  | _, _, [] => none
  | fuel + 1, depth, char :: rest =>
    if char = ']' then if depth ≤ 1 then some rest else readClass fuel (depth - 1) rest
    else if char = '[' then
      match readNamedClass rest with
      | some rest => readClass fuel depth rest
      | none => readClass fuel (depth + 1) (skipClassHead rest)
    else if (char = '&' || char = '-' || char = '~') && rest.head? = some char then
      readClass fuel depth rest.tail
    else
      match readClassRange (char :: rest) with
      | some rest => readClass fuel depth rest
      | none => none

/-- How a group begins. -/
inductive GroupHead where
  | group
  /-- Flags for what follows, without a group. -/
  | flags

/-- The letters of flags. -/
def flagLetters : List Char := ['i', 'm', 's', 'U', 'u', 'R', 'x', '-']

/-- Read the name of a group up to its closing bracket. -/
def readGroupName (text : List Char) : Option (GroupHead × List Char) :=
  let name := text.takeWhile (· ≠ '>')
  match name, text.drop name.length with
  | first :: _, '>' :: rest =>
    if !first.isDigit && name.all (fun char => char.isAlphanum || char = '_') then
      some (.group, rest)
    else none
  | _, _ => none

/-- Read the beginning of a group behind its parenthesis. -/
def readGroupHead : List Char → Option (GroupHead × List Char)
  | '?' :: 'P' :: '<' :: rest => readGroupName rest
  | '?' :: '<' :: rest => readGroupName rest
  | '?' :: rest =>
    let flags := rest.takeWhile flagLetters.contains
    match rest.drop flags.length with
    | ':' :: rest => some (.group, rest)
    | ')' :: rest => if flags.isEmpty then none else some (.flags, rest)
    | _ => none
  | rest => some (.group, rest)

/-- Read a pattern to its end. `depth` is the number of open groups, and `repeatable`
says whether something stands before that can be repeated; each step takes some
fuel. -/
def readAll : (fuel depth : Nat) → (repeatable : Bool) → List Char → Bool
  | _, depth, _, [] => depth = 0
  | 0, _, _, _ => false
  | fuel + 1, depth, repeatable, char :: rest =>
    if char = '(' then
      match readGroupHead rest with
      | some (.group, rest) => readAll fuel (depth + 1) false rest
      | some (.flags, rest) => readAll fuel depth false rest
      | none => false
    else if char = ')' then 0 < depth && readAll fuel (depth - 1) true rest
    else if char = '|' then readAll fuel depth false rest
    else if char = '*' || char = '+' || char = '?' then
      repeatable && readAll fuel depth true (if rest.head? = some '?' then rest.tail else rest)
    else if char = '\x7b' then false
    else if char = '[' then
      match readClass (rest.length + 1) 1 (skipClassHead rest) with
      | some rest => readAll fuel depth true rest
      | none => false
    else if char = '\\' then
      match readEscape rest with
      | some (_, rest) => readAll fuel depth true rest
      | none => false
    else readAll fuel depth true rest

/-- Whether a text is a pattern. -/
def isPattern (text : List Char) : Bool :=
  readAll (text.length + 1) 0 false text

end PhotonFerry.LogPattern
