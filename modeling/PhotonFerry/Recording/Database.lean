import PhotonFerry.Recording.Relation
/-!
# Recording files

A recording file is a database of relations, or no database at all. `Schema`
gives the two relations that make a database a recording.
-/

namespace PhotonFerry.Recording

/-- The relations of a file. -/
structure Database where
  relations : List Relation := []

namespace Database

/-- The relation that a statement means by a name. -/
def find? (database : Database) (name : String) : Option Relation :=
  database.relations.find? (·.isNamed name)

/-- The relation that a statement means by a name, which must exist. -/
def get (database : Database) (name : String) : Except StoreError Relation :=
  match database.find? name with
  | some relation => .ok relation
  | none => .error (.noSuchTable name)

theorem get_eq_ok_iff {database : Database} {name : String} {relation : Relation} :
    database.get name = .ok relation ↔ database.find? name = some relation := by
  unfold get
  split <;> simp [*]

/-- What a name leads to has that name. -/
theorem isNamed_of_get {database : Database} {name : String} {relation : Relation}
    (found : database.get name = .ok relation) : relation.isNamed name := by
  have first : database.relations.find? (·.isNamed name) = some relation :=
    get_eq_ok_iff.mp found
  simpa using List.find?_some first

/-- Put a changed relation in the place of the one with its name. -/
def put (database : Database) (changed : Relation) : Database where
  relations := database.relations.map fun relation =>
    if relation.isNamed changed.name then changed else relation

/-- A change does not change what a name means: it leads to the changed relation
where it led to one of the same name, and to the same relation as before elsewhere. -/
theorem find?_put (database : Database) (changed : Relation) (name : String) :
    (database.put changed).find? name = (database.find? name).map fun relation =>
      if relation.isNamed changed.name then changed else relation := by
  have named (relation : Relation) :
      (if relation.isNamed changed.name then changed else relation).isNamed name =
        relation.isNamed name := by
    split
    · rename_i same
      have spelled : relation.name.toLower = changed.name.toLower := by
        simpa [Relation.isNamed] using same
      simp only [Relation.isNamed, spelled]
    · rfl
  rw [find?, put, List.find?_map, find?]
  congr 2
  funext relation
  exact named relation

/-- A name leads to what took the place of the relation that it led to. -/
theorem get_put {database : Database} {name : String} {relation changed : Relation}
    (found : database.get name = .ok relation) (same : changed.name = relation.name) :
    (database.put changed).get name = .ok changed := by
  rw [get_eq_ok_iff, find?_put, get_eq_ok_iff.mp found, Option.map_some,
    if_pos (by simp [Relation.isNamed, same])]

/-- A name that means something else is not touched by a change. -/
theorem get_put_of_apart (database : Database) {changed : Relation} {name : String}
    (apart : changed.name.toLower ≠ name.toLower) :
    (database.put changed).get name = database.get name := by
  rw [get, get, find?_put]
  cases found : database.find? name with
  | none => rfl
  | some relation =>
    have named : relation.name.toLower = name.toLower := by
      simpa [Relation.isNamed] using isNamed_of_get (get_eq_ok_iff.mpr found)
    have other : relation.isNamed changed.name = false := by
      simpa [Relation.isNamed, named] using apart.symm
    rw [Option.map_some, other]
    rfl

/-- Of two changes of one relation the second counts. -/
theorem put_put (database : Database) {first second : Relation}
    (same : first.name = second.name) :
    (database.put first).put second = database.put second := by
  simp only [put, List.map_map, mk.injEq]
  apply List.map_congr_left
  intro relation _
  simp only [Function.comp_apply, same]
  split
  · rw [if_pos (by simp [Relation.isNamed, same])]
  · rfl

/-- Whether there is a table, not a view, of exactly this name. -/
def hasTable (database : Database) (name : String) : Bool :=
  database.relations.any fun relation => relation.name = name && !relation.isView

/-- Add an empty relation unless its name is taken. -/
def ensure (database : Database) (relation : Relation) : Database :=
  if (database.find? relation.name).isSome then database
  else { relations := database.relations ++ [relation] }

end Database

namespace Schema

/-- The names of the columns that hold the photoelectrons of an event, in stored order. -/
def sampleColumns : List String :=
  ["channel_id", "time", "wavelength", "dx", "dy", "dz", "polx", "poly", "polz", "flag"]

/-- The name of the column that holds the number of photoelectrons of an event. -/
def countColumn : String := "pe_count"

/-- Photoelectrons by event; each sample column holds flat words. -/
def events : Relation where
  name := "pe_events"
  keyName := "event_id"
  columns := ⟨countColumn, .integer, true⟩ :: sampleColumns.map fun name => ⟨name, .anything, true⟩

/-- Positions of the backend's photomultipliers by channel number. -/
def positions : Relation where
  name := "pmt_positions"
  keyName := "pmt_id"
  columns := ["x", "y", "z"].map fun name => ⟨name, .real, true⟩

/-- The relations that a recording must have, in the order in which they are looked for. -/
def required : List Relation := [events, positions]

/-- An empty recording. -/
def empty : Database := { relations := required }

end Schema

/-- What a name of a recording leads to. -/
inductive StoredFile where
  /-- To nothing, since the name cannot be understood or followed. -/
  | unreachable (reason : StoreError)
  | absent
  /-- A folder in place of a file. -/
  | folder
  /-- A file that is no database. -/
  | foreign
  | database (contents : Database)

end PhotonFerry.Recording
