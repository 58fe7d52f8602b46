import PhotonFerry.Toml.Scalar
/-!
# Reading TOML

`readDocument` reads a whole text line by line: headers begin tables, and all
other lines add to the table that was begun last. Values nest to a fixed depth.
-/

namespace PhotonFerry.Toml

open Digits (readMark)

/-- Read a word that stands for a value. -/
def readScalar (text : List Char) : Option (Item × List Char) :=
  match text with
  | [] => none
  | mark :: rest =>
    if mark = '"' ∨ mark = '\'' then
      (readString text).map fun (value, after) => (.string value, after)
    else if mark = 't' then
      if rest.take 3 = "rue".toList then some (.boolean true, rest.drop 3) else none
    else if mark = 'f' then
      if rest.take 4 = "alse".toList then some (.boolean false, rest.drop 4) else none
    else
      let moment := (readMoment text).map fun (value, after) => (Item.moment value, after)
      let decimal := (readDecimalFloat text).map fun (value, after) => (Item.float value, after)
      let special := (readSpecialFloat text).map fun (value, after) => (Item.float value, after)
      let integer := (readInteger text).map fun (value, after) => (Item.integer value, after)
      moment.or (decimal.or (special.or integer))

/-- Read the rest of an array behind its opening or a comma, as far as `fuel` allows. -/
def readElements (readItem : List Char → Option (Item × List Char)) :
    (fuel : Nat) → List Char → Option (List Item × List Char)
  | 0, _ => none
  | fuel + 1, text => do
    match ← skipGaps text.length text with
    | ']' :: after => some ([], after)
    | inner =>
      let (item, rest) ← readItem inner
      match ← skipGaps rest.length rest with
      | ']' :: after => some ([item], after)
      | ',' :: after =>
        let (items, after) ← readElements readItem fuel after
        some (item :: items, after)
      | _ => none

/-- Read a key and its value. -/
def readPair (readItem : List Char → Option (Item × List Char)) (text : List Char) :
    Option ((List String × Item) × List Char) := do
  let (keys, rest) ← readKey text
  let rest ← readMark '=' rest
  let (item, rest) ← readItem (skipLineBlanks rest)
  some ((keys, item), rest)

/-- Read the members of a table in braces, as far as `fuel` allows. -/
def readMembers (readItem : List Char → Option (Item × List Char)) :
    (fuel : Nat) → List Char → Option (List (List String × Item) × List Char)
  | 0, _ => none
  | fuel + 1, text => do
    let (pair, rest) ← readPair readItem text
    match skipLineBlanks rest with
    | mark :: after =>
      if mark = '\x7d' then some ([pair], after)
      else if mark = ',' then
        let (pairs, after) ← readMembers readItem fuel after
        some (pair :: pairs, after)
      else none
    | [] => none

/-- The table in braces with the given members. -/
def inlineTable (pairs : List (List String × Item)) : Option Item := do
  let members ← pairs.foldlM (fun members (keys, item) => do
    let (path, key) ← Draft.place? keys
    Members.insertDotted path key item members) []
  some (.table .inline members)

/-- Read a table behind its opening brace. -/
def readInlineTable (readItem : List Char → Option (Item × List Char)) (text : List Char) :
    Option (Item × List Char) :=
  match skipLineBlanks text with
  | [] => none
  | mark :: after =>
    if mark = '\x7d' then some (.table .inline [], after)
    else do
      let (pairs, rest) ← readMembers readItem (text.length + 1) text
      some (← inlineTable pairs, rest)

/-- Read a value that nests at most `depth` deep. -/
def readItem : (depth : Nat) → List Char → Option (Item × List Char)
  | 0, text => readScalar text
  | depth + 1, text =>
    match text with
    | [] => none
    | mark :: rest =>
      if mark = '[' then
        (readElements (readItem depth) (rest.length + 1) rest).map fun (items, after) =>
          (.array items, after)
      else if mark = '\x7b' then readInlineTable (readItem depth) rest
      else readScalar text

/-- Read a header and begin its table. -/
def readHeader (draft : Draft) (text : List Char) : Option (Draft × List Char) :=
  match text with
  | '[' :: '[' :: rest => do
    let (path, rest) ← readKey rest
    let rest ← readMark ']' (← readMark ']' rest)
    some (← draft.beginRepeated path, ← readLineEnd rest)
  | '[' :: rest => do
    let (path, rest) ← readKey rest
    let rest ← readMark ']' rest
    some (← draft.beginTable path, ← readLineEnd rest)
  | _ => none

/-- Read a line and add what it says. -/
def readLine (draft : Draft) (text : List Char) : Option (Draft × List Char) :=
  match skipLineBlanks text with
  | [] => some (draft, [])
  | mark :: rest =>
    if mark = '[' then readHeader draft (mark :: rest)
    else if mark = '#' ∨ mark = '\n' then
      (readLineEnd (mark :: rest)).map fun after => (draft, after)
    else do
      let ((keys, item), after) ← readPair (readItem depthLimit) (mark :: rest)
      some (← draft.insert keys item, ← readLineEnd after)

/-- Read lines to the end of the text, as far as `fuel` allows. -/
def readLines : (fuel : Nat) → Draft → List Char → Option Draft
  | _, draft, [] => some draft
  | 0, _, _ => none
  | fuel + 1, draft, text => do
    let (draft, rest) ← readLine draft text
    readLines fuel draft rest

/-- The members of the document that a whole text holds. A byte order mark may
stand at its front. -/
def readDocument (text : String) : Option Members :=
  let chars :=
    match text.toList with
    | '\ufeff' :: rest => rest
    | other => other
  (readLines (chars.length + 1) {} (joinLineBreaks chars)).bind Draft.close

end PhotonFerry.Toml
