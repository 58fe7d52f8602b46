/-!
# TOML items

The tree of a TOML document, and the rules by which its parts fit together. A
table remembers how it came about, because that decides who may still add to it:
a table with a header of its own or in braces is finished where it is written,
while a table that only occurs on the way to another one may get a header later,
and one made by dotted keys may get more dotted keys.
-/

namespace PhotonFerry.Toml

/-- How a table came about. -/
inductive TableForm where
  /-- In braces. -/
  | inline
  /-- With a header of its own, or as the document itself. -/
  | header
  /-- On the way to a table with a header. -/
  | implicit
  /-- By a dotted key. -/
  | dotted
  deriving DecidableEq, Repr

/-- A part of a document. -/
inductive Item where
  | string (value : String)
  | integer (value : Int)
  | float (value : Float)
  | boolean (value : Bool)
  /-- A date, a time or both, as written. -/
  | moment (text : String)
  | array (items : List Item)
  | table (form : TableForm) (members : List (String × Item))
  /-- Tables under one repeated header. -/
  | tables (elements : List (List (String × Item)))

/-- The members of a table in the order in which they were written. -/
abbrev Members := List (String × Item)

namespace Members

/-- Put an item in the place of the one with its key. -/
def replace (key : String) (item : Item) (members : Members) : Members :=
  members.map fun (other, kept) => if other = key then (other, item) else (other, kept)

/-- The members without one key. -/
def erase (key : String) (members : Members) : Members :=
  members.filter fun (other, _) => other ≠ key

/-- Change the table at the end of a path. Tables that are missing on the way are
made in the given form; a finished table takes no dotted keys. -/
def changeAt (form : TableForm) (change : TableForm → Members → Option Members) :
    (path : List String) → (own : TableForm) → Members → Option Members
  | [], own, members => change own members
  | key :: path, _, members =>
    match members.lookup key with
    | none =>
      (changeAt form change path form []).map fun inner =>
        members ++ [(key, .table form inner)]
    | some (.table inner kept) =>
      if inner = .inline ∨ (form = .dotted ∧ inner = .header) then none
      else
        (changeAt form change path inner kept).map fun changed =>
          replace key (.table inner changed) members
    | some (.tables elements) =>
      match elements.reverse with
      | [] => none
      | last :: before =>
        (changeAt form change path .header last).map fun changed =>
          replace key (.tables (before.reverse ++ [changed])) members
    | some _ => none

/-- The item at the end of a nonempty path. -/
def itemAt? : (path : List String) → Members → Option Item
  | [], _ => none
  | [key], members => members.lookup key
  | key :: path, members =>
    match members.lookup key with
    | some (.table _ inner) => itemAt? path inner
    | some (.tables elements) => elements.getLast?.bind (itemAt? path)
    | _ => none

/-- Add an item under a dotted key. A key is written once, and the table that a
dotted key names must be one made by dotted keys. -/
def insertDotted (path : List String) (key : String) (item : Item) (members : Members) :
    Option Members :=
  let change (own : TableForm) (kept : Members) : Option Members :=
    if (own = .dotted) = path.isEmpty then none
    else if (kept.lookup key).isSome then none
    else some (kept ++ [(key, item)])
  changeAt .dotted change path .header members

end Members

/-- A document that is being put together: what is finished, and the table that
the coming lines belong to. -/
structure Draft where
  finished : Members := []
  /-- Where the open table belongs; the document itself has the empty path. -/
  path : List String := []
  /-- Whether the open table is one of several under its header. -/
  repeated : Bool := false
  opened : Members := []

namespace Draft

/-- The path of the table that holds the open one, and the name of the open one in it. -/
def place? (path : List String) : Option (List String × String) :=
  path.getLast?.map fun key => (path.dropLast, key)

/-- The document with the open table put where it belongs. -/
def close (draft : Draft) : Option Members :=
  match place? draft.path with
  | none => some draft.opened
  | some (parent, key) =>
    let change (_ : TableForm) (members : Members) : Option Members :=
      match members.lookup key with
      | none =>
        some (members ++ [(key, if draft.repeated then .tables [draft.opened]
          else .table .header draft.opened)])
      | some (.tables elements) =>
        if draft.repeated then
          some (Members.replace key (.tables (elements ++ [draft.opened])) members)
        else none
      | some _ => none
    Members.changeAt .implicit change parent .header draft.finished

/-- Begin the table of a header. Only a table that so far was on the way to
others can be begun again. -/
def beginTable (draft : Draft) (path : List String) : Option Draft := do
  let finished ← draft.close
  let (parent, key) ← place? path
  let drop (_ : TableForm) (members : Members) : Option Members := some (members.erase key)
  let remaining ← Members.changeAt .implicit drop parent .header finished
  match Members.itemAt? path finished with
  | none => some ⟨remaining, path, false, []⟩
  | some (.table .implicit members) => some ⟨remaining, path, false, members⟩
  | some _ => none

/-- Begin one more table under a repeated header. -/
def beginRepeated (draft : Draft) (path : List String) : Option Draft := do
  let finished ← draft.close
  let (parent, _) ← place? path
  let keep (_ : TableForm) (members : Members) : Option Members := some members
  let finished ← Members.changeAt .implicit keep parent .header finished
  match Members.itemAt? path finished with
  | none => some ⟨finished, path, true, []⟩
  | some (.tables _) => some ⟨finished, path, true, []⟩
  | some _ => none

/-- Add an item under a dotted key to the open table. -/
def insert (draft : Draft) (keys : List String) (item : Item) : Option Draft := do
  let (path, key) ← place? keys
  let opened ← Members.insertDotted path key item draft.opened
  some { draft with opened }

end Draft

end PhotonFerry.Toml
