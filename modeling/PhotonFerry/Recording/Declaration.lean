import PhotonFerry.Recording.Relation
/-!
# Declarations of tables

A database file keeps the statement by which each table was made. Its columns are
read off that statement: their names, what they declare, and which of them, if
any, is another name for the key of a row.
-/

namespace PhotonFerry.Recording

/-- A piece of a statement. -/
inductive Lexeme where
  /-- A word as it stands. -/
  | word (text : List Char)
  /-- A name or text between quotes. -/
  | quoted (text : List Char)
  | opening
  | closing
  | comma
  | other
  deriving DecidableEq, Repr

namespace Lexeme

/-- Whether a character can stand in a word. -/
def isWordChar (char : Char) : Bool :=
  char.isAlphanum || char = '_' || char = '$' || 128 ≤ char.toNat

/-- The mark that ends what a mark begins. -/
def endMark? (char : Char) : Option Char :=
  if char = '[' then some ']'
  else if char = '"' ∨ char = '\'' ∨ char = '\x60' then some char
  else none

/-- Read a quoted text up to its end mark, which stands for itself where it is doubled. -/
def readQuoted (mark : Char) : List Char → List Char × List Char
  | [] => ([], [])
  | [char] => if char = mark then ([], []) else ([char], [])
  | char :: next :: rest =>
    if char = mark then
      if next = mark then
        let (text, after) := readQuoted mark rest
        (mark :: text, after)
      else ([], next :: rest)
    else
      let (text, after) := readQuoted mark (next :: rest)
      (char :: text, after)

/-- The rest of a text behind a comment of the longer kind. -/
def skipComment : List Char → List Char
  | '*' :: '/' :: rest => rest
  | _ :: rest => skipComment rest
  | [] => []

/-- The pieces of a statement, as far as `fuel` characters go. -/
def ofChars : (fuel : Nat) → List Char → List Lexeme
  | 0, _ => []
  | _, [] => []
  | fuel + 1, char :: rest =>
    if char.isWhitespace then ofChars fuel rest
    else if char = '-' ∧ rest.head? = some '-' then ofChars fuel (rest.dropWhile (· ≠ '\n'))
    else if char = '/' ∧ rest.head? = some '*' then ofChars fuel (skipComment rest.tail)
    else if char = '(' then opening :: ofChars fuel rest
    else if char = ')' then closing :: ofChars fuel rest
    else if char = ',' then comma :: ofChars fuel rest
    else if isWordChar char then
      word (char :: rest.takeWhile isWordChar) :: ofChars fuel (rest.dropWhile isWordChar)
    else
      match endMark? char with
      | some mark =>
        let (text, after) := readQuoted mark rest
        quoted text :: ofChars fuel after
      | none => other :: ofChars fuel rest

/-- The pieces of a statement. -/
def ofText (text : String) : List Lexeme :=
  ofChars (text.length + 1) text.toList

/-- Whether a piece is the given word, in any case. -/
def isWord (keyword : String) : Lexeme → Bool
  | word text => (String.ofList text).toUpper = keyword
  | _ => false

/-- The name that a piece gives. -/
def name? : Lexeme → Option String
  | word text => some (String.ofList text)
  | quoted text => some (String.ofList text)
  | _ => none

end Lexeme

namespace Declaration

/-- The parts between the commas of a list that stands in brackets, without the
brackets; commas and brackets further in belong to the parts. -/
def parts (depth : Nat) : List Lexeme → List (List Lexeme)
  | [] => [[]]
  | piece :: rest =>
    let keep (later : List (List Lexeme)) : List (List Lexeme) :=
      match later with
      | [] => [[piece]]
      | first :: others => (piece :: first) :: others
    match piece, depth with
    | .closing, 0 => [[]]
    | .closing, depth + 1 => keep (parts depth rest)
    | .opening, depth => keep (parts (depth + 1) rest)
    | .comma, 0 => [] :: parts 0 rest
    | _, depth => keep (parts depth rest)

/-- The words that begin the constraint of a table. -/
def tableConstraints : List String := ["CONSTRAINT", "PRIMARY", "UNIQUE", "CHECK", "FOREIGN"]

/-- The words that end the type of a column. -/
def columnConstraints : List String :=
  ["CONSTRAINT", "PRIMARY", "NOT", "NULL", "UNIQUE", "CHECK", "DEFAULT", "COLLATE", "REFERENCES",
    "GENERATED", "AS"]

/-- Whether a text holds another. -/
def holds (part : List Char) : List Char → Bool
  | [] => part.isEmpty
  | char :: rest => part.isPrefixOf (char :: rest) || holds part rest

/-- What a column of a declared type bends its values to. -/
def affinity (type : List Lexeme) : Affinity :=
  let text := (type.filterMap Lexeme.name?).flatMap fun name => name.toUpper.toList
  let mentions (names : List String) : Bool := names.any fun name => holds name.toList text
  if mentions ["INT"] then .integer
  else if mentions ["CHAR", "CLOB", "TEXT", "BLOB"] then .anything
  else if mentions ["REAL", "FLOA", "DOUB"] then .real
  else .anything

/-- A declared column, and whether it is another name for the key. -/
def column? (part : List Lexeme) : Option (Column × Bool) := do
  let head :: rest := part | none
  if tableConstraints.any fun keyword => head.isWord keyword then none
  else
    let isConstraint (piece : Lexeme) := columnConstraints.any fun keyword => piece.isWord keyword
    let type := rest.takeWhile fun piece => !isConstraint piece
    let constraints := rest.drop type.length
    let follows (first second : String) : Bool :=
      (constraints.zip constraints.tail).any fun (one, next) =>
        one.isWord first && next.isWord second
    let isKey := type.length = 1 && type.all (·.isWord "INTEGER") && follows "PRIMARY" "KEY"
    some (⟨← head.name?, affinity type, follows "NOT" "NULL"⟩, isKey)

/-- The columns that a statement declares, in their order. -/
def columns (statement : String) : List (Column × Bool) :=
  let body := (Lexeme.ofText statement).dropWhile (· ≠ .opening)
  (parts 0 body.tail).filterMap column?

end Declaration

end PhotonFerry.Recording
