import PhotonFerry.Recording.Database
import PhotonFerry.Recording.Declaration
import PhotonFerry.Recording.Pages
/-!
# Reading database files

The first page of a file holds the table of its relations: their kind and name,
the page on which they begin, and the statement that made them. A row keeps its
key apart from its cells, and leaves out cells at its end that its column was
given later.
-/

namespace PhotonFerry.Recording

/-- An entry of the table of relations. -/
structure CatalogEntry where
  kind : String
  name : String
  page : Nat
  statement : String

namespace CatalogEntry

/-- The entry in a row of the table of relations. -/
def ofCells? : List Cell → Option CatalogEntry
  | [.text kind, .text name, _, .integer page, .text statement] =>
    some ⟨kind, name, page.toNat, statement⟩
  | [.text kind, .text name, _, .null, .text statement] => some ⟨kind, name, 0, statement⟩
  | _ => none

/-- The place of a column among those of a recording; every other one is behind them. -/
def placeOf (column : Column) : Nat :=
  (Schema.required.flatMap Relation.columns).findIdx (·.name = column.name)

/-- What belongs to columns, in the order of their places. -/
def arrange {α : Type} (columnOf : α → Column) (entries : List α) : List α :=
  entries.mergeSort fun first second => placeOf (columnOf first) ≤ placeOf (columnOf second)

/-- The cells of a row in its columns, without the one that names the key. -/
def align (columns : List (Column × Bool)) (cells : List Cell) : List Cell :=
  let padded := cells ++ List.replicate (columns.length - cells.length) .null
  let kept := (columns.zip padded).filterMap fun ((column, isKey), cell) =>
    if isKey then none
    else some (column, if column.affinity = .real then bendToReal cell else cell)
  (arrange Prod.fst kept).map Prod.snd

/-- The relation of an entry. -/
def relation? (pages : Pages) (entry : CatalogEntry) : Option Relation :=
  if entry.kind = "view" then
    some { name := entry.name, keyName := "", columns := [], isView := true }
  else if entry.kind = "table" then do
    let columns := Declaration.columns entry.statement
    let key := (columns.find? Prod.snd).map fun (column, _) => column.name
    let rows ← pages.rows? Pages.deepest entry.page
    some {
      name := entry.name
      keyName := key.getD "rowid"
      columns := arrange id ((columns.filter fun (_, isKey) => !isKey).map Prod.fst)
      rows := rows.map fun (number, cells) => (number, align columns cells) }
  else none

end CatalogEntry

/-- The database in the bytes of a file. -/
def Database.ofBytes? (bytes : ByteArray) : Option Database := do
  let pages ← Pages.ofBytes? bytes
  let rows ← pages.rows? Pages.deepest 1
  let entries := rows.filterMap fun (_, cells) => CatalogEntry.ofCells? cells
  some { relations := entries.filterMap (·.relation? pages) }

end PhotonFerry.Recording
