import PhotonFerry.Journal
import PhotonFerry.Logging.Pattern
import PhotonFerry.Number.Decimal
import PhotonFerry.Number.Numeral
import PhotonFerry.Text.Alphanumeric
import PhotonFerry.Text.Utf8
/-!
# Directives

A directive limits how detailed the shown records are. It may be restricted to the
topics whose path begins with a target, to records with certain fields, and to what
happens within a span. It is a limit alone, or else it is written
`target[span{field=value}]=limit`, where every part can be missing.

Blanks around a directive do not keep it from being read, but they are not left out
either: its marks are looked for in the text without the blanks, and its parts are
cut out of the text with them, at the same places.
-/

namespace PhotonFerry

/-- A field that a directive asks for. -/
structure FieldMatch where
  name : String
  /-- Whether it must have a certain value. -/
  hasValue : Bool
  deriving DecidableEq, Repr

/-- A limit on some records. -/
structure Directive where
  /-- What the paths of the topics begin with; without a target all topics are meant. -/
  target : Option String := none
  /-- The span that the records must belong to. -/
  span : Option String := none
  fields : List FieldMatch := []
  /-- The largest rank that is shown; 0 hides everything. -/
  limit : Nat
  deriving DecidableEq, Repr

/-- Why a text is no directive. -/
inductive DirectiveError where
  | malformed
  | unknownLimit
  /-- The value of a field is no pattern. -/
  | badPattern
  /-- A part would begin or end within a character, which is a fault. -/
  | cutCharacter
  deriving DecidableEq, Repr

/-- The report of an error. -/
def DirectiveError.message : DirectiveError → String
  | malformed => "invalid filter directive"
  | unknownLimit =>
    "error parsing level filter: expected one of \"off\", \"error\", \"warn\", \"info\", "
      ++ "\"debug\", \"trace\", or a number 0-5"
  | badPattern => "invalid field filter: error building NFA"
  | cutCharacter => "byte index is not a char boundary"

namespace Directive

/-! ## Blanks -/

/-- The code points of blanks, as closed intervals in ascending order. -/
def blankRanges : List (Nat × Nat) := [
  (0x9, 0xd), (0x20, 0x20), (0x85, 0x85), (0xa0, 0xa0), (0x1680, 0x1680), (0x2000, 0x200a),
  (0x2028, 0x2029), (0x202f, 0x202f), (0x205f, 0x205f), (0x3000, 0x3000)]

/-- A space, a tabulator, the end of a line, or one of their kind: a character with
the property `White_Space`. -/
def isBlank (value : Char) : Bool :=
  blankRanges.any fun (low, high) => low ≤ value.toNat && value.toNat ≤ high

/-- A text without the blanks at its ends. -/
def trim (text : List Char) : List Char :=
  ((text.dropWhile isBlank).reverse.dropWhile isBlank).reverse

/-! ## Limits and fields -/

/-- The rank beyond that of all records. -/
def everything : Nat := 5

/-- The names of the limits, in ascending order. -/
def limitNames : List String := ["off", "error", "warn", "info", "debug", "trace"]

/-- The limit that a number or a name stands for. -/
def limit? (text : String) : Option Nat :=
  match Numeral.parse? 64 text.toList with
  | some number => if number ≤ everything then some number else none
  | none => limitNames.findIdx? (· = text.toLower)

/-- The texts behind a sign that stand for numbers without digits. -/
def digitlessNumbers : List String := ["inf", "infinity", "nan"]

/-- Whether a text with a sign is a number. -/
def isSignedNumber (text : List Char) : Bool :=
  (Decimal.ofText? text).isSome
    || digitlessNumbers.contains (String.ofList (Decimal.readSign text).2).toLower

/-- The field that a text asks for. A value is a number or a pattern; what follows a
second equals sign does not count. -/
def fieldOf (text : String) : Except DirectiveError FieldMatch :=
  match text.toList.splitOn '=' with
  | name :: value :: _ =>
    if isSignedNumber value || LogPattern.isPattern value then .ok ⟨String.ofList name, true⟩
    else .error .badPattern
  | _ => .ok ⟨text, false⟩

/-! ## Reading -/

/-- Whether bytes at an offset begin a character, or end a text. -/
def isBoundary (text : List UInt8) (offset : Nat) : Bool :=
  ((text.drop offset).head?.map fun byte => !Utf8.isContinuation byte).getD true

/-- The part of a text between two offsets. -/
def part (text : List UInt8) (start stop : Nat) : Except DirectiveError String :=
  if isBoundary text start && isBoundary text stop then
    match String.fromUTF8? ⟨((text.drop start).take (stop - start)).toArray⟩ with
    | some part => .ok part
    | none => .error .cutCharacter
  else .error .cutCharacter

/-- Which part of a directive is being read; an unfinished part knows where it
begins. -/
inductive Stage where
  | start
  | limitOrTarget (start : Nat)
  | span (start : Nat)
  | field (start : Nat)
  | afterField
  | afterSpan
  | limit (start : Nat)
  deriving DecidableEq, Repr

/-- Whether a directive can begin with a character, apart from a bracket. -/
def isFirst (char : Char) : Bool :=
  char = '-' || char = ':' || char = '_' || Text.isAlphanumeric char

/-- Read the character at an offset. -/
def step (text : List UInt8) (directive : Directive) (stage : Stage) (offset : Nat)
    (char : Char) : Except DirectiveError (Directive × Stage) := do
  match stage with
  | .start =>
    if char = '[' then return (directive, .span (offset + 1))
    else if isFirst char then return (directive, .limitOrTarget offset)
    else throw .malformed
  | .limitOrTarget start =>
    if char = '=' then
      return ({ directive with target := some (← part text start offset) }, .limit (offset + 1))
    else if char = '[' then
      return ({ directive with target := some (← part text start offset) }, .span (offset + 1))
    else return (directive, stage)
  | .span start =>
    if char = ']' then
      return ({ directive with span := some (← part text start offset) }, .afterSpan)
    else if char = '\x7b' then
      let name ← part text start offset
      return ({ directive with span := if name = "" then none else some name },
        .field (offset + 1))
    else return (directive, stage)
  | .field start =>
    if char = '\x7d' then
      let name ← part text start offset
      if name = "" then throw .malformed
      return ({ directive with fields := directive.fields ++ [← fieldOf name] }, .afterField)
    else return (directive, stage)
  | .afterField => if char = ']' then return (directive, .afterSpan) else throw .malformed
  | .afterSpan =>
    if char = '=' then return (directive, .limit (offset + 1)) else throw .malformed
  | .limit _ => return (directive, stage)

/-- Read characters from an offset on. -/
def scan (text : List UInt8) (directive : Directive) (stage : Stage) (offset : Nat) :
    List Char → Except DirectiveError (Directive × Stage)
  | [] => .ok (directive, stage)
  | char :: rest =>
    match step text directive stage offset char with
    | .error reason => .error reason
    | .ok (directive, stage) => scan text directive stage (offset + char.utf8Size) rest

/-- The directive that is read when its text ends. -/
def finish (text : List UInt8) (directive : Directive) :
    Stage → Except DirectiveError Directive
  | .limitOrTarget start => do
    let last ← part text start text.length
    match limit? last with
    | some limit => return { directive with limit }
    | none => return { directive with target := some last }
  | .limit start => do
    let last ← part text start text.length
    if last = "" then return directive
    match limit? last with
    | some limit => return { directive with limit }
    | none => throw .unknownLimit
  | .afterSpan => .ok directive
  | _ => .error .malformed

/-- The directive in a text. Without a limit it shows everything. -/
def ofText (text : String) : Except DirectiveError Directive := do
  let bytes := text.toUTF8.toList
  let (directive, stage) ← scan bytes { limit := everything } .start 0 (trim text.toList)
  finish bytes directive stage

/-! ## Meaning -/

/-- Whether a directive asks for what only spans can have. Records are not made
within spans, so that such a directive never decides. -/
def needsSpan (directive : Directive) : Bool :=
  directive.span.isSome || directive.fields.any FieldMatch.hasValue

/-- Whether a directive asks for more than a target. -/
def isSelective (directive : Directive) : Bool :=
  directive.span.isSome || !directive.fields.isEmpty

/-- The names of the fields of every record. -/
def recordFields : List String :=
  ["message", "log.target", "log.module_path", "log.file", "log.line"]

/-- The names of the fields that a directive asks for. -/
def fieldNames (directive : Directive) : List String :=
  directive.fields.map FieldMatch.name

/-- Whether a directive is about the records of a path. -/
def concerns (directive : Directive) (path : String) : Bool :=
  (directive.target.all fun target => path.startsWith target)
    && directive.fieldNames.all recordFields.contains

/-- What is compared of a target: without one it is the shortest of all. -/
def targetSize (directive : Directive) : Nat :=
  (directive.target.map fun target => target.utf8ByteSize + 1).getD 0

/-- Whether of two directives about one path the second decides, if it is given
later: its target is longer, or it asks for more fields, or for fields with names
that are no earlier in the alphabet. -/
def yieldsTo (first second : Directive) : Bool :=
  if first.targetSize ≠ second.targetSize then first.targetSize < second.targetSize
  else if first.fields.length ≠ second.fields.length then
    first.fields.length < second.fields.length
  else !decide (second.fieldNames < first.fieldNames)

end Directive

end PhotonFerry
