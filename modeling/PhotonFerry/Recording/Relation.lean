import PhotonFerry.Recording.Cell
/-!
# Stored tables

A relation keeps rows of cells under integer keys, in ascending order of the
keys. `find?` is its view as a partial map; `put` changes that map at one key.
-/

namespace PhotonFerry.Recording

/-- Why the store refuses an operation. -/
inductive StoreError where
  | cannotOpen (path : String)
  /-- The name of a file has a zero byte at a position. -/
  | nulByte (position : Nat)
  | unknownAuthority (authority : String)
  | unknownMode (kind mode : String)
  | forbiddenMode (kind mode : String)
  | unknownSystem (name : String)
  | diskFailure
  | notADatabase
  | readOnly
  | noSuchTable (table : String)
  | noSuchColumn (column statement : String) (offset : Nat)
  | noColumnNamed (table column : String)
  | modifiesView (table : String)
  | missingValue (table column : String)
  | duplicateKey (table column : String)
  | datatypeMismatch
  | columnType (kind : String) (index : Nat) (column : String)
  deriving DecidableEq, Repr

/-- The report of an error. -/
def StoreError.message : StoreError → String
  | cannotOpen path => s!"unable to open database file: {path}"
  | nulByte position => s!"nul byte found in provided data at position: {position}"
  | unknownAuthority authority => s!"invalid uri authority: {authority}"
  | unknownMode kind mode => s!"no such {kind} mode: {mode}"
  | forbiddenMode kind mode => s!"{kind} mode not allowed: {mode}"
  | unknownSystem name => s!"no such vfs: {name}"
  | diskFailure => "disk I/O error"
  | notADatabase => "file is not a database"
  | readOnly => "attempt to write a readonly database"
  | noSuchTable table => s!"no such table: {table}"
  | noSuchColumn column statement offset =>
    s!"no such column: {column} in {statement} at offset {offset}"
  | noColumnNamed table column => s!"table {table} has no column named {column}"
  | modifiesView table => s!"cannot modify {table} because it is a view"
  | missingValue table column => s!"NOT NULL constraint failed: {table}.{column}"
  | duplicateKey table column => s!"UNIQUE constraint failed: {table}.{column}"
  | datatypeMismatch => "datatype mismatch"
  | columnType kind index column =>
    s!"Invalid column type {kind} at index: {index}, name: {column}"

/-- A column apart from the key. -/
structure Column where
  name : String
  affinity : Affinity := .anything
  /-- Whether a row must have a value here. -/
  required : Bool := false

/-- Rows by key, in ascending order. -/
abbrev Rows := List (Int × List Cell)

namespace Rows

/-- The row with a key. -/
def find? (key : Int) : Rows → Option (List Cell)
  | [] => none
  | (other, cells) :: rest => if other = key then some cells else find? key rest

/-- Store a row under a key, in place of a row that has it. -/
def put (key : Int) (cells : List Cell) : Rows → Rows
  | [] => [(key, cells)]
  | (other, kept) :: rest =>
    if key < other then (key, cells) :: (other, kept) :: rest
    else if key = other then (key, cells) :: rest
    else (other, kept) :: put key cells rest

/-- A row that was put is found, and every other row as before. -/
theorem find?_put (key other : Int) (cells : List Cell) (rows : Rows) :
    (put key cells rows).find? other = if key = other then some cells else rows.find? other := by
  induction rows with
  | nil => rfl
  | cons first rest step =>
    obtain ⟨held, kept⟩ := first
    simp only [put]
    split
    · rfl
    · split
      · rename_i same
        subst same
        simp only [find?]
        split <;> rfl
      · rename_i different
        simp only [find?, step]
        grind

/-- The largest key. -/
def lastKey? (rows : Rows) : Option Int :=
  rows.getLast?.map Prod.fst

end Rows

/-- A table or view of a file. -/
structure Relation where
  name : String
  keyName : String
  columns : List Column
  rows : Rows := []
  isView : Bool := false

namespace Relation

/-- Whether a statement that names `name` means this relation; case does not matter. -/
def isNamed (relation : Relation) (name : String) : Bool :=
  relation.name.toLower = name.toLower

/-- What the columns keep of the given cells, which must be values where values
are required. -/
def keep (relation : Relation) (cells : List Cell) : Except StoreError (List Cell) :=
  let kept := relation.columns.zipWith (fun column cell => column.affinity.bend cell) cells
  match (relation.columns.zip kept).find? fun (column, cell) =>
      column.required && (cell matches .null) with
  | some (column, _) => .error (.missingValue relation.name column.name)
  | none => .ok kept

/-- Check that the columns of a schema are all there, as a statement that names them asks. -/
def checkColumns (relation schema : Relation) : Except StoreError Unit :=
  match schema.columns.find? fun column => !relation.columns.any (·.name = column.name) with
  | some column => .error (.noColumnNamed relation.name column.name)
  | none => .ok ()

/-- The key that a cell gives a new row: without a value the next one after the largest. -/
def keyOf (relation : Relation) (cell : Cell) : Except StoreError Int :=
  match bendToInteger (readNumber cell) with
  | .null => .ok (relation.rows.lastKey?.elim 1 (· + 1))
  | .integer key => .ok key
  | _ => .error .datatypeMismatch

/-- Add a row whose key must be new. -/
def insert (relation : Relation) (keyCell : Cell) (cells : List Cell) :
    Except StoreError Relation := do
  let key ← relation.keyOf keyCell
  let kept ← relation.keep cells
  if (relation.rows.find? key).isSome then .error (.duplicateKey relation.name relation.keyName)
  else .ok { relation with rows := relation.rows.put key kept }

/-- Add a row in place of the one that has its key. -/
def replace (relation : Relation) (key : Int) (cells : List Cell) :
    Except StoreError Relation := do
  let kept ← relation.keep cells
  .ok { relation with rows := relation.rows.put key kept }

end Relation

end PhotonFerry.Recording
