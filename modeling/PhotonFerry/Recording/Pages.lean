import PhotonFerry.Number.Word
import PhotonFerry.Recording.Cell
import PhotonFerry.Text.Utf8
/-!
# The pages of a database file

A database file is a row of pages of one size. A table is a tree of pages: inner
pages lead to others, leaves hold rows under their keys, and a row too long for
its leaf goes on in a chain of overflow pages. All numbers are big-endian. What
does not follow this form gives no rows.
-/

namespace PhotonFerry.Recording

/-- The pages of a file. -/
structure Pages where
  bytes : ByteArray
  size : Nat
  /-- The bytes of each page that are in use. -/
  usable : Nat

namespace Pages

/-- What a database file begins with. -/
def magic : List UInt8 :=
  "SQLite format 3\x00".toUTF8.toList

/-- The length of the header of a file, which stands on its first page. -/
def headerSize : Nat := 100

/-- An unsigned number of the given number of bytes. -/
def number? (bytes : ByteArray) (offset : Nat) : (width : Nat) → Option Nat
  | 0 => some 0
  | width + 1 => do
    let high ← number? bytes offset width
    let low ← bytes[offset + width]?
    some (high * 256 + low.toNat)

/-- A number of seven bits a byte, of which the highest tells whether more follow;
the last of `left + 1` bytes counts in full. The number comes with the place
behind it. -/
def varint? (bytes : ByteArray) (high : Nat) : (left offset : Nat) → Option (Nat × Nat)
  | 0, offset => do
    let byte ← bytes[offset]?
    some (high * 256 + byte.toNat, offset + 1)
  | left + 1, offset => do
    let byte ← bytes[offset]?
    if byte.toNat < 128 then some (high * 128 + byte.toNat, offset + 1)
    else varint? bytes (high * 128 + byte.toNat % 128) left (offset + 1)

/-- A number of up to nine bytes, with the place behind it. -/
def word? (bytes : ByteArray) (offset : Nat) : Option (Nat × Nat) :=
  varint? bytes 0 8 offset

/-- The pages of a file that has the form of a database. -/
def ofBytes? (bytes : ByteArray) : Option Pages := do
  if (bytes.extract 0 magic.length).toList ≠ magic then none
  else
    let stored ← number? bytes 16 2
    let reserved ← bytes[20]?
    let size := if stored = 1 then 65536 else stored
    if size < 512 then none else some ⟨bytes, size, size - reserved.toNat⟩

/-- Where a page begins; pages count from 1. -/
def start (pages : Pages) (page : Nat) : Nat :=
  (page - 1) * pages.size

/-- The number of pages. -/
def count (pages : Pages) : Nat :=
  pages.bytes.size / pages.size

/-- Bytes of a chain of overflow pages, as far as `fuel` pages go. -/
def overflow? (pages : Pages) : (fuel page length : Nat) → Option ByteArray
  | _, _, 0 => some .empty
  | 0, _, _ => none
  | fuel + 1, page, length =>
    if page = 0 then none
    else do
      let offset := pages.start page
      let next ← number? pages.bytes offset 4
      let here := min length (pages.usable - 4)
      let later ← overflow? pages fuel next (length - here)
      some (pages.bytes.extract (offset + 4) (offset + 4 + here) ++ later)

/-- How many bytes of a row its leaf holds. -/
def localLength (pages : Pages) (length : Nat) : Nat :=
  let most := pages.usable - 35
  if length ≤ most then length
  else
    let least := (pages.usable - 12) * 32 / 255 - 23
    let kept := least + (length - least) % (pages.usable - 4)
    if kept ≤ most then kept else least

/-- The bytes of a row that begins in a leaf. -/
def payload? (pages : Pages) (offset length : Nat) : Option ByteArray := do
  let here := pages.localLength length
  let first := pages.bytes.extract offset (offset + here)
  if first.size ≠ here then none
  else if here = length then some first
  else
    let next ← number? pages.bytes (offset + here) 4
    some (first ++ (← pages.overflow? pages.count next (length - here)))

/-- The cell of a kind that begins at a place, and its length. -/
def cell? (bytes : ByteArray) (offset kind : Nat) : Option (Cell × Nat) :=
  let integer (width : Nat) : Option (Cell × Nat) :=
    (number? bytes offset width).map fun value => (.integer (Word.signed (8 * width) value), width)
  if kind = 0 then some (.null, 0)
  else if kind ≤ 4 then integer kind
  else if kind = 5 then integer 6
  else if kind = 6 then integer 8
  else if kind = 7 then
    (number? bytes offset 8).map fun value =>
      (Cell.ofFloat (Float.ofBits (UInt64.ofNat value)), 8)
  else if kind = 8 then some (.integer 0, 0)
  else if kind = 9 then some (.integer 1, 0)
  else if kind < 12 then none
  else
    let length := (kind - 12) / 2
    let content := bytes.extract offset (offset + length)
    if content.size ≠ length then none
    else if kind % 2 = 0 then some (.blob content, length)
    else some (.text (Utf8.decodeLossy content), length)

/-- The kinds of the cells of a row, up to the end of its header. -/
def kinds? (bytes : ByteArray) (stop : Nat) : (fuel offset : Nat) → Option (List Nat)
  | 0, _ => none
  | fuel + 1, offset =>
    if stop ≤ offset then some []
    else do
      let (kind, next) ← word? bytes offset
      some (kind :: (← kinds? bytes stop fuel next))

/-- The cells of the given kinds from a place on. -/
def cells? (bytes : ByteArray) (offset : Nat) : List Nat → Option (List Cell)
  | [] => some []
  | kind :: rest => do
    let (cell, length) ← cell? bytes offset kind
    some (cell :: (← cells? bytes (offset + length) rest))

/-- The cells of a row. -/
def record? (bytes : ByteArray) : Option (List Cell) := do
  let (stop, first) ← word? bytes 0
  cells? bytes stop (← kinds? bytes stop (bytes.size + 1) first)

/-- The row that begins at a place of a leaf, under its key. -/
def row? (pages : Pages) (offset : Nat) : Option (Int × List Cell) := do
  let (length, next) ← word? pages.bytes offset
  let (key, next) ← word? pages.bytes next
  some (Word.signed 64 key, ← record? (← pages.payload? next length))

/-- The deepest tree of pages. -/
def deepest : Nat := 64

/-- The rows under a page, in the order of their keys, as far as `fuel` levels go. -/
def rows? (pages : Pages) : (fuel page : Nat) → Option (List (Int × List Cell))
  | 0, _ => none
  | fuel + 1, page => do
    if page = 0 ∨ pages.count < page then none
    else
      let base := pages.start page
      let header := if page = 1 then base + headerSize else base
      let kind ← pages.bytes[header]?
      let count ← number? pages.bytes (header + 3) 2
      let pointers := header + if kind = 5 then 12 else 8
      let places ← (List.range count).mapM fun index =>
        (number? pages.bytes (pointers + 2 * index) 2).map (base + ·)
      if kind = 13 then places.mapM pages.row?
      else if kind = 5 then
        let children ← places.mapM fun place => number? pages.bytes place 4
        let last ← number? pages.bytes (header + 8) 4
        let below ← (children ++ [last]).mapM (pages.rows? fuel)
        some below.flatten
      else none

end Pages

end PhotonFerry.Recording
