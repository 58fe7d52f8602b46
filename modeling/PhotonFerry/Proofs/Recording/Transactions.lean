import PhotonFerry.Proofs.Recording.Events
import PhotonFerry.Proofs.Recording.Numbering
/-!
# Positions are stored whole or not at all

Storing positions deletes the earlier ones, looks whether the columns are there, and inserts
the new ones row by row, in one transaction. A coordinate that is not a number has no value
to be stored, and the column must have one, so that any of the rows may be refused when
others are gone and some are there already. Then the transaction is dropped and the recording
is as it was before. If no row is refused, exactly the positions come back that were stored.
-/

namespace PhotonFerry

namespace RecordingTable

open Recording

section Zeros

/-- What a column of reals keeps of a number: a zero loses its sign. -/
def settled (value : Float) : Float :=
  if value == 0.0 then 0.0 else value

open Float.Model in
/-- Only what is not a number differs from itself. -/
theorem beq_self_of_number {value : UnpackedFloat} (number : value.isNaN = false) :
    value.beq value := by
  cases value with
  | notANumber => cases number
  | infinity sign => cases sign <;> rfl
  | zero sign => rfl
  | finite sign mantissa exponent positive =>
    have same : (compare exponent exponent).then (compare mantissa mantissa) = .eq := by
      rw [Std.ReflOrd.compare_self, Std.ReflOrd.compare_self]
      rfl
    cases sign with
    | positive =>
      change (some ((compare exponent exponent).then (compare mantissa mantissa)) ==
        some .eq) = true
      rw [same]
      rfl
    | negative =>
      change (some ((compare exponent exponent).then (compare mantissa mantissa)).swap ==
        some .eq) = true
      rw [same]
      rfl

open Float.Model in
/-- What equals zero is a zero. -/
theorem zero_beq {value : UnpackedFloat} {sign : UnpackedFloat.Sign}
    (same : value.beq (.zero sign)) : (UnpackedFloat.zero sign).beq value := by
  cases value with
  | notANumber => exact same
  | infinity own => cases own <;> exact absurd same Bool.false_ne_true
  | zero own => rfl
  | finite own mantissa exponent positive => cases own <;> exact absurd same Bool.false_ne_true

/-- What is kept of a number equals it. -/
theorem settled_beq {value : Float} (number : value.isNaN = false) : settled value == value := by
  unfold settled
  split
  · rename_i zero
    have same : value.toModel.unpack.beq (.zero .positive) := zero
    exact zero_beq same
  · exact beq_self_of_number number

end Zeros

section Rows

/-- Every coordinate is a number. -/
def AreNumbers (point : Point Float) : Prop :=
  point.x.isNaN = false ∧ point.y.isNaN = false ∧ point.z.isNaN = false

instance (point : Point Float) : Decidable (AreNumbers point) :=
  inferInstanceAs (Decidable (_ ∧ _ ∧ _))

/-- The column that has no value for a point, if there is one: the first of them. -/
def gapOf (point : Point Float) : Option String :=
  if point.x.isNaN then some "x"
  else if point.y.isNaN then some "y"
  else if point.z.isNaN then some "z"
  else none

theorem gapOf_eq_none_iff {point : Point Float} : gapOf point = none ↔ AreNumbers point := by
  unfold gapOf AreNumbers
  cases point.x.isNaN <;> cases point.y.isNaN <;> cases point.z.isNaN <;> simp

/-- What is kept of a point. -/
def settledPoint (point : Point Float) : Point Float :=
  ⟨settled point.x, settled point.y, settled point.z⟩

/-- The cells of a point that is handed to the store. -/
def givenCells (point : Point Float) : List Cell :=
  [Cell.ofFloat point.x, Cell.ofFloat point.y, Cell.ofFloat point.z]

/-- The cells of a stored point. -/
def storedCells (point : Point Float) : List Cell :=
  [.real (settled point.x), .real (settled point.y), .real (settled point.z)]

/-- The rows of points in their order. -/
def positionRows (points : List (Point Float)) : Rows :=
  points.mapIdx fun number point => ((number : Int), storedCells point)

/-- The relation of positions with some rows. -/
abbrev positionsWith (rows : Rows) : Relation :=
  { Schema.positions with rows }

variable {rows : Rows} {point : Point Float}

/-- A column of reals keeps a number up to the sign of zero, and nothing of what is none. -/
theorem bend_ofFloat (value : Float) : Affinity.real.bend (Cell.ofFloat value) =
    if value.isNaN then .null else .real (settled value) := by
  unfold Cell.ofFloat
  cases value.isNaN <;> rfl

/-- The columns of positions keep a point of numbers and refuse every other. -/
theorem keep_givenCells (rows : Rows) (point : Point Float) :
    (positionsWith rows).keep (givenCells point) =
      match gapOf point with
      | some column => .error (.missingValue Schema.positions.name column)
      | none => .ok (storedCells point) := by
  simp only [Relation.keep, givenCells, storedCells, gapOf, Schema.positions, List.map_cons,
    List.map_nil, List.zipWith_cons_cons, List.zipWith_nil_left, bend_ofFloat]
  cases point.x.isNaN <;> cases point.y.isNaN <;> cases point.z.isNaN <;> rfl

/-- The rows of points are numbered from zero. -/
theorem keys_positionRows (points : List (Point Float)) :
    (positionRows points).keys = Rows.numbersBelow points.length := by
  apply List.ext_getElem
  · simp [positionRows]
  · intro index inside below
    simp [positionRows, Rows.keys, Rows.numbersBelow]

theorem positionRows_concat (points : List (Point Float)) (point : Point Float) :
    positionRows (points ++ [point]) =
      positionRows points ++ [((points.length : Int), storedCells point)] :=
  List.mapIdx_concat

/-- The rows of points hold what is kept of them. -/
theorem hold_positionRows (points : List (Point Float)) :
    Hold (positionRows points) (points.map settledPoint) := by
  refine List.forall₂_iff_get.mpr ⟨by simp [positionRows], fun index inside below => ?_⟩
  simp [positionRows, storedCells, settledPoint, readPosition, realOf, bind, Except.bind]

/-- The next point goes behind the others, unless it has a gap. -/
theorem insert_positionRows (earlier : List (Point Float)) (point : Point Float) :
    (positionsWith (positionRows earlier)).insert (.integer earlier.length) (givenCells point) =
      match gapOf point with
      | some column => .error (.missingValue Schema.positions.name column)
      | none => .ok (positionsWith (positionRows (earlier ++ [point]))) := by
  have last : ∀ held ∈ (positionRows earlier).keys, held < (earlier.length : Int) := by
    intro held member
    rw [keys_positionRows, Rows.mem_numbersBelow] at member
    exact member.2
  have unfound : ((positionRows earlier).find? (earlier.length : Int)).isSome = false := by
    rw [Bool.eq_false_iff, Ne, ← Rows.mem_keys_iff]
    intro member
    exact Int.lt_irrefl _ (last _ member)
  have behind : (positionRows earlier).put (earlier.length : Int) (storedCells point) =
      positionRows (earlier ++ [point]) := by
    rw [Rows.put_of_last last, positionRows_concat]
  have key : (positionsWith (positionRows earlier)).keyOf (.integer earlier.length) =
      .ok (earlier.length : Int) := rfl
  rw [Relation.insert, key, keep_givenCells]
  cases gapOf point with
  | some column => rfl
  | none => simp [bind, Except.bind, unfound, behind]

/-- Points are inserted behind each other up to the first one with a gap, if there is one. -/
theorem insertFrom_positionRows (earlier points : List (Point Float)) :
    insertFrom earlier.length (positionsWith (positionRows earlier)) points =
      match points.findSome? gapOf with
      | some column => .error (.missingValue Schema.positions.name column)
      | none => .ok (positionsWith (positionRows (earlier ++ points))) := by
  induction points generalizing earlier with
  | nil => simp [insertFrom]
  | cons point points step =>
    have unfolded : insertFrom earlier.length (positionsWith (positionRows earlier))
        (point :: points) =
      (positionsWith (positionRows earlier)).insert (.integer earlier.length) (givenCells point)
        >>= fun changed => insertFrom (earlier.length + 1) changed points := rfl
    rw [unfolded, insert_positionRows, List.findSome?_cons]
    cases gapOf point with
    | some column => rfl
    | none =>
      have later := step (earlier ++ [point])
      rwa [List.length_append, List.append_assoc] at later

end Rows

section Statements

/-- A statement changes what is stored or is refused. -/
abbrev Statement : Type :=
  RecordingTable → Except StoreError RecordingTable

/-- Change the relation of positions. -/
def changePositions (change : Relation → Except StoreError Relation) : Statement := fun table => do
  let relation ← table.target Schema.positions.name
  if table.writable then
    let changed ← change relation
    .ok { table with database := table.database.put changed }
  else .error .readOnly

/-- Delete all positions. -/
def deletion : Statement :=
  changePositions fun relation => .ok { relation with rows := [] }

/-- Look whether the columns are there that the insertions name. -/
def preparation : Statement :=
  changePositions fun relation => do
    relation.checkColumns Schema.positions
    .ok relation

/-- Insert one position. -/
def insertion (number : Nat) (point : Point Float) : Statement :=
  changePositions fun relation => relation.insert (.integer number) (givenCells point)

/-- Insert positions with the numbers from `number` on. -/
def insertions (number : Nat) (points : List (Point Float)) : List Statement :=
  (points.zipIdx number).map fun (point, number) => insertion number point

/-- Run statements up to the first one that is refused. What the earlier ones did is done. -/
def execute : List Statement → RecordingTable → Except StoreError Unit × RecordingTable
  | [], table => (.ok (), table)
  | statement :: statements, table =>
    match statement table with
    | .ok changed => execute statements changed
    | .error reason => (.error reason, table)

/-- Run statements in a transaction. It is committed behind the last of them; if one of them is
refused, it is dropped, and everything is rolled back to where it began. -/
def transaction (statements : List Statement) (table : RecordingTable) :
    Except RecordingError Unit × RecordingTable :=
  match execute statements table with
  | (.ok (), changed) => (.ok (), changed)
  | (.error reason, _) => (.error (.store reason), table)

variable {table : RecordingTable} {relation changed : Relation}

/-- A table in which one relation was changed. -/
def withChanged (table : RecordingTable) (changed : Relation) : RecordingTable :=
  { table with database := table.database.put changed }

/-- A statement after others finds what they left. -/
theorem changePositions_withChanged {base : Relation}
    (found : table.database.get Schema.positions.name = .ok base) (writable : table.writable = true)
    (same : relation.name = base.name) (isTable : relation.isView = false)
    (change : Relation → Except StoreError Relation) :
    changePositions change (table.withChanged relation) =
      change relation >>= fun changed =>
        .ok { table with database := (table.database.put relation).put changed } := by
  have left : (table.withChanged relation).target Schema.positions.name = .ok relation := by
    simp [target, withChanged, Database.get_put found same, isTable, bind, Except.bind]
  rw [changePositions, left]
  simp only [withChanged, writable, if_true, bind, Except.bind]

/-- The insertions give what inserting one row after the other into the relation gives. -/
theorem execute_insertions {base : Relation}
    (found : table.database.get Schema.positions.name = .ok base) (writable : table.writable = true)
    (same : relation.name = base.name) (isTable : relation.isView = false) (number : Nat)
    (points : List (Point Float)) :
    (execute (insertions number points) (table.withChanged relation)).1 =
        (insertFrom number relation points).map (fun _ => ()) ∧
      ∀ changed, insertFrom number relation points = .ok changed →
        (execute (insertions number points) (table.withChanged relation)).2 =
          table.withChanged changed := by
  induction points generalizing number relation with
  | nil =>
    refine ⟨rfl, fun changed done => ?_⟩
    rw [← Except.ok.inj done]
    rfl
  | cons point points step =>
    have unfolded : insertFrom number relation (point :: points) =
        relation.insert (.integer number) (givenCells point) >>= fun changed =>
          insertFrom (number + 1) changed points := rfl
    have first : insertion number point (table.withChanged relation) = _ :=
      changePositions_withChanged found writable same isTable _
    simp only [insertions, List.zipIdx_cons, List.map_cons, execute, unfolded, first]
    cases inserted : relation.insert (.integer number) (givenCells point) with
    | error reason => exact ⟨rfl, fun changed done => nomatch done⟩
    | ok next =>
      obtain ⟨rows, rfl⟩ := exists_rows_of_insert inserted
      have once : (table.database.put relation).put { relation with rows } =
          table.database.put { relation with rows } := Database.put_put _ rfl
      simp only [bind, Except.bind, once]
      exact @step { relation with rows } same isTable (number + 1)

/-- What storing positions leaves is decided by what was inserted. -/
theorem storePositions_of_inserted {points : List (Point Float)} {later : RecordingTable}
    (stored : table.insertPositions points = .ok later) :
    (storePositions points table).value = .ok () ∧ (storePositions points table).state = later := by
  simp [storePositions, changeBy, stored, Action.info]

theorem storePositions_of_refused {points : List (Point Float)} {reason : StoreError}
    (refused : table.insertPositions points = .error reason) :
    (storePositions points table).value = .error (.store reason) ∧
      (storePositions points table).state = table := by
  simp [storePositions, changeBy, refused]

theorem storePositions_eq (points : List (Point Float)) (table : RecordingTable) :
    ((storePositions points table).value, (storePositions points table).state) =
      match table.insertPositions points with
      | .ok later => (.ok (), later)
      | .error reason => (.error (.store reason), table) := by
  cases stored : table.insertPositions points with
  | error reason => exact Prod.ext_iff.mpr (storePositions_of_refused stored)
  | ok later => exact Prod.ext_iff.mpr (storePositions_of_inserted stored)

/-- Whatever the recording is, it is as it was before if storing positions failed. -/
theorem state_of_storePositions_error {points : List (Point Float)} {reason : RecordingError}
    (failed : (storePositions points table).value = .error reason) :
    (storePositions points table).state = table := by
  cases stored : table.insertPositions points with
  | error _ => exact (storePositions_of_refused stored).2
  | ok later => exact absurd (failed.symm.trans (storePositions_of_inserted stored).1) nofun

/-- Positions are deleted where they can be changed at all. -/
theorem deletion_eq_ok_iff {started : RecordingTable} : deletion table = .ok started ↔
    ∃ relation, table.target Schema.positions.name = .ok relation ∧ table.writable = true ∧
      table.withChanged { relation with rows := [] } = started := by
  rw [deletion, changePositions, bind_eq_ok_iff]
  cases writable : table.writable with
  | false => simp
  | true => simp [bind, Except.bind, withChanged, writable]

/-- Where they cannot be changed, none are stored. -/
theorem insertPositions_of_deletion {points : List (Point Float)} {reason : StoreError}
    (refused : deletion table = .error reason) : table.insertPositions points = .error reason := by
  unfold deletion changePositions at refused
  unfold insertPositions
  cases targeted : table.target Schema.positions.name with
  | error other => simpa [targeted, bind, Except.bind] using refused
  | ok relation =>
    cases writable : table.writable with
    | true => simp [targeted, writable, bind, Except.bind] at refused
    | false => simpa [targeted, writable, bind, Except.bind] using refused

/-- Where they can be changed, the columns are checked and all the rows are inserted before
anything is stored. -/
theorem insertPositions_of_target (targeted : table.target Schema.positions.name = .ok relation)
    (writable : table.writable = true) (points : List (Point Float)) :
    table.insertPositions points = relation.checkColumns Schema.positions >>= fun _ =>
      (insertFrom 0 { relation with rows := [] } points).map table.withChanged := by
  simp [insertPositions, targeted, writable, bind, Except.bind, Except.map, withChanged]

/-- The preparation changes nothing, and is refused if a column is missing. -/
theorem preparation_withChanged {base : Relation}
    (found : table.database.get Schema.positions.name = .ok base) (writable : table.writable = true)
    (same : relation.name = base.name) (isTable : relation.isView = false) :
    preparation (table.withChanged relation) =
      (relation.checkColumns Schema.positions).map fun _ => table.withChanged relation := by
  rw [preparation, changePositions_withChanged found writable same isTable]
  cases relation.checkColumns Schema.positions with
  | error reason => rfl
  | ok _ => simp [bind, Except.bind, Except.map, Database.put_put, withChanged]

/-- Storing positions is the transaction of its statements, whatever the recording is. -/
theorem storePositions_eq_transaction (points : List (Point Float)) (table : RecordingTable) :
    transaction (deletion :: preparation :: insertions 0 points) table =
      ((storePositions points table).value, (storePositions points table).state) := by
  rw [storePositions_eq, transaction, execute]
  cases deleted : deletion table with
  | error reason => rw [insertPositions_of_deletion deleted]
  | ok started =>
    obtain ⟨relation, targeted, writable, rfl⟩ := deletion_eq_ok_iff.mp deleted
    obtain ⟨found, isTable⟩ := target_eq_ok_iff.mp targeted
    let bare : Relation := { relation with rows := [] }
    have prepared : preparation (table.withChanged bare) =
        (relation.checkColumns Schema.positions).map fun _ => table.withChanged bare :=
      preparation_withChanged found writable rfl isTable
    obtain ⟨outcome, left⟩ := @execute_insertions _ bare _ found writable rfl isTable 0 points
    rw [insertPositions_of_target targeted writable points]
    dsimp only
    rw [execute, prepared]
    cases relation.checkColumns Schema.positions with
    | error reason => rfl
    | ok _ =>
      simp only [Except.map, bind, Except.bind]
      generalize execute (insertions 0 points) (table.withChanged bare) = executed
        at outcome left ⊢
      obtain ⟨result, after⟩ := executed
      cases inserted : insertFrom 0 bare points with
      | error reason =>
        rw [inserted] at outcome
        obtain rfl : result = .error reason := outcome
        rfl
      | ok changed =>
        rw [inserted] at outcome
        obtain rfl : result = .ok () := outcome
        obtain rfl : after = table.withChanged changed := left changed inserted
        rfl

end Statements

/-- Two points have equal numbers for coordinates. Zeros of either sign are equal. -/
def SameNumbers (left right : Point Float) : Prop :=
  left.x == right.x ∧ left.y == right.y ∧ left.z == right.z

/-- What storing positions comes to. -/
structure StoresPositions (points : List (Point Float)) (table : RecordingTable)
    (stored : Traced RecordingTable (Except RecordingError Unit)) : Prop where
  transacted :
    transaction (deletion :: preparation :: insertions 0 points) table =
      (stored.value, stored.state)
  succeeds : (∀ point ∈ points, AreNumbers point) → stored.value = .ok ()
  /-- What was stored comes back, and nothing else. -/
  loads : (∀ point ∈ points, AreNumbers point) → points ≠ [] →
    stored.state.readPositions = .ok (points.map settledPoint)
  same : (∀ point ∈ points, AreNumbers point) →
    ∀ point ∈ points, SameNumbers (settledPoint point) point
  empty : points = [] →
    stored.state.readPositions = .error (.malformedPositions "no PMT positions")
  /-- The first coordinate without a value is reported. -/
  refuses : ∀ point ∈ points, ¬AreNumbers point → ∃ column, points.findSome? gapOf = some column ∧
    stored.value = .error (.store (.missingValue Schema.positions.name column))
  atomic : ∀ reason, stored.value = .error reason → stored.state = table
  events : stored.state.database.get Schema.events.name = table.database.get Schema.events.name

section Storing

variable {table : RecordingTable} {rows : Rows} {points : List (Point Float)}

theorem sameNumbers_settledPoint {point : Point Float} (numbers : AreNumbers point) :
    SameNumbers (settledPoint point) point :=
  ⟨settled_beq numbers.1, settled_beq numbers.2.1, settled_beq numbers.2.2⟩

theorem findSome?_gapOf_eq_none_iff :
    points.findSome? gapOf = none ↔ ∀ point ∈ points, AreNumbers point := by
  simp only [List.findSome?_eq_none_iff, gapOf_eq_none_iff]

/-- Storing positions puts their rows in place of all others, unless there is a gap. -/
theorem insertPositions_of_standard
    (standard : table.database.get Schema.positions.name = .ok (positionsWith rows))
    (writable : table.writable = true) : table.insertPositions points =
      match points.findSome? gapOf with
      | some column => .error (.missingValue Schema.positions.name column)
      | none => .ok (table.withChanged (positionsWith (positionRows points))) := by
  have targeted : table.target Schema.positions.name = .ok (positionsWith rows) :=
    target_eq_ok_iff.mpr ⟨standard, rfl⟩
  have complete : (positionsWith rows).checkColumns Schema.positions = .ok () := by
    simp [Relation.checkColumns, Schema.positions]
  have inserted : insertFrom 0 (positionsWith []) points = _ := insertFrom_positionRows [] points
  have reached := insertPositions_of_target targeted writable points
  rw [complete] at reached
  refine reached.trans ?_
  rw [inserted]
  cases points.findSome? gapOf <;> rfl

/-- The relation with the stored rows is found. -/
theorem get_withChanged
    (standard : table.database.get Schema.positions.name = .ok (positionsWith rows)) :
    (table.withChanged (positionsWith (positionRows points))).database.get Schema.positions.name =
      .ok (positionsWith (positionRows points)) :=
  Database.get_put standard rfl

section Writable

variable (standard : table.database.get Schema.positions.name = .ok (positionsWith rows))
  (writable : table.writable = true)
include standard writable

/-- Positions without a gap are stored. -/
theorem storePositions_of_numbers (numbers : ∀ point ∈ points, AreNumbers point) :
    (storePositions points table).value = .ok () ∧ (storePositions points table).state =
      table.withChanged (positionsWith (positionRows points)) := by
  have outcome := @insertPositions_of_standard table rows points standard writable
  rw [findSome?_gapOf_eq_none_iff.mpr numbers] at outcome
  exact storePositions_of_inserted outcome

/-- Positions with a gap are not, and the recording is as it was before. -/
theorem storePositions_of_gap {column : String} (gap : points.findSome? gapOf = some column) :
    (storePositions points table).value =
        .error (.store (.missingValue Schema.positions.name column)) ∧
      (storePositions points table).state = table := by
  have outcome := @insertPositions_of_standard table rows points standard writable
  rw [gap] at outcome
  exact storePositions_of_refused outcome

/-- Storing positions in a table of the schema that can be written. -/
theorem storesPositions (points : List (Point Float)) :
    StoresPositions points table (storePositions points table) where
  transacted := storePositions_eq_transaction points table
  succeeds := by
    intro numbers
    exact (storePositions_of_numbers standard writable numbers).1
  loads := by
    intro numbers inhabited
    rw [(storePositions_of_numbers standard writable numbers).2]
    apply readPositions_of_numbered (get_withChanged standard) (hold_positionRows points)
    · simpa [positionRows] using inhabited
    · rw [keys_positionRows]
      simp [positionRows]
  same := by
    intro numbers point member
    exact sameNumbers_settledPoint (numbers point member)
  empty := by
    rintro rfl
    rw [(storePositions_of_numbers standard writable (by simp)).2,
      readPositions_of_hold (get_withChanged standard) (hold_positionRows [])]
    rfl
  refuses := by
    intro point member gap
    cases first : points.findSome? gapOf with
    | none => exact absurd (findSome?_gapOf_eq_none_iff.mp first point member) gap
    | some column => exact ⟨column, rfl, (storePositions_of_gap standard writable first).1⟩
  atomic := by
    intro reason failed
    exact state_of_storePositions_error failed
  events := by
    have apart : Schema.positions.name.toLower ≠ Schema.events.name.toLower := by decide +kernel
    cases first : points.findSome? gapOf with
    | none =>
      have numbers := findSome?_gapOf_eq_none_iff.mp first
      rw [(storePositions_of_numbers standard writable numbers).2]
      exact Database.get_put_of_apart _ apart
    | some column => rw [(storePositions_of_gap standard writable first).2]

end Writable

end Storing

/-- Storing the positions of photomultipliers is atomic, and they load back. Whatever positions a
recording of the schema held before, new ones whose coordinates are all numbers take their place
and are loaded in their order, up to the sign of zero; if there are none, nothing can be loaded. If
a coordinate of any of them is not a number, the recording is as it was before, although rows had
been deleted and inserted by then. And any well-typed rows are loaded exactly if there are some and
their numbers are the integers from zero up to their count. -/
theorem positions_stored_atomically {table : RecordingTable} {rows : Rows}
    (standard : table.database.get Schema.positions.name = .ok (positionsWith rows)) :
    (table.writable = true → ∀ points,
      StoresPositions points table (storePositions points table)) ∧
    (rows.Ascending → (∀ row ∈ rows, WellTyped row.2) →
      LoadsPositions rows table.readPositions) := by
  constructor
  · intro writable points
    exact storesPositions standard writable points
  · intro ascending typed
    exact loadsPositions standard ascending typed

/-- A recording with a negative number and a gap cannot be loaded. New positions take its place,
but not when one of them, behind another one, has a coordinate that is not a number. -/
theorem positions_stored_atomically_replaced :
    let earlier : Rows := [(-3, [.real 7.0, .integer 8, .real 9.0]),
      (5, [.real 1.0, .real 2.0, .real 3.0])]
    let table : RecordingTable := ⟨{ relations := [Schema.events, positionsWith earlier] }, true⟩
    let first : Point Float := ⟨1.5, -0.0, 2.0⟩
    let broken : Point Float := ⟨1.0, 0.0 / 0.0, 3.0⟩
    (∃ reason, table.readPositions = .error reason) ∧
      (storePositions [first, first] table).state.readPositions =
        .ok [⟨1.5, 0.0, 2.0⟩, ⟨1.5, 0.0, 2.0⟩] ∧
      (storePositions [first, broken] table).value =
        .error (.store (.missingValue "pmt_positions" "y")) ∧
      (storePositions [first, broken] table).state = table := by
  intro earlier table first broken
  have standard : table.database.get Schema.positions.name = .ok (positionsWith earlier) := by
    have other : Schema.events.isNamed Schema.positions.name = false := by decide +kernel
    have named : (positionsWith earlier).isNamed Schema.positions.name := by
      simp [Relation.isNamed]
    rw [Database.get_eq_ok_iff]
    simp [table, Database.find?, other, named]
  obtain ⟨storing, loading⟩ := positions_stored_atomically standard
  have loads := loading (by decide) (by simp [earlier, WellTyped, IsNumeric])
  have whole := storing rfl [first, first]
  have refused := storing rfl [first, broken]
  have kept : [first, first].map settledPoint = [⟨1.5, 0.0, 2.0⟩, ⟨1.5, 0.0, 2.0⟩] := by
    decide +kernel
  refine ⟨?_, kept ▸ whole.loads (by decide +kernel) (by simp), ?_⟩
  · cases read : table.readPositions with
    | error reason => exact ⟨reason, rfl⟩
    | ok points =>
      have same := (loads.succeeds.mp ⟨points, read⟩).2 (-3)
      simp [earlier, Rows.keys] at same
  · obtain ⟨column, gap, failed⟩ := refused.refuses broken (by simp) (by decide +kernel)
    have named : [first, broken].findSome? gapOf = some "y" := by decide +kernel
    obtain rfl := Option.some.inj (named.symm.trans gap)
    exact ⟨failed, refused.atomic _ failed⟩

end RecordingTable

end PhotonFerry
