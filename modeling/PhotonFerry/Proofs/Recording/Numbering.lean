import PhotonFerry.Proofs.Recording.Keys
import PhotonFerry.Recording.Table
/-!
# Positions that are numbered from zero

The numbers of stored positions are arbitrary integers in ascending order. They are
compared with the places of the rows, one by one, and that finds every gap, every
negative number and every number too many: ascending numbers are equal to their places
exactly if they make up an interval from zero.
-/

namespace PhotonFerry

namespace RecordingTable

open Recording

/-- A cell that is read as a number. -/
def IsNumeric : Cell → Prop
  | .integer _ | .real _ => True
  | .null | .text _ | .blob _ => False

/-- The cells of a position: three numbers. -/
def WellTyped (cells : List Cell) : Prop :=
  cells.length = 3 ∧ ∀ cell ∈ cells, IsNumeric cell

/-- The rows hold these points, one in each. -/
def Hold (rows : Rows) (points : List (Point Float)) : Prop :=
  List.Forall₂ (fun row point => readPosition row.1 row.2 = .ok (row.1, point)) rows points

section Reading

variable {rows : Rows} {points : List (Point Float)} {number : Nat}

theorem exists_realOf {cell : Cell} (numeric : IsNumeric cell) (index : Nat) (column : String) :
    ∃ value, realOf index column cell = .ok value := by
  cases cell with
  | integer value => exact ⟨_, rfl⟩
  | real value => exact ⟨_, rfl⟩
  | null | text | blob => exact absurd numeric id

/-- Three numbers are a point. -/
theorem exists_readPosition {cells : List Cell} (typed : WellTyped cells) (key : Int) :
    ∃ point, readPosition key cells = .ok (key, point) := by
  obtain ⟨three, numeric⟩ := typed
  match cells, three, numeric with
  | [x, y, z], _, numeric =>
    simp only [List.forall_mem_cons] at numeric
    obtain ⟨first, second, third, -⟩ := numeric
    obtain ⟨valueX, readX⟩ := exists_realOf first 1 "x"
    obtain ⟨valueY, readY⟩ := exists_realOf second 2 "y"
    obtain ⟨valueZ, readZ⟩ := exists_realOf third 3 "z"
    exact ⟨⟨valueX, valueY, valueZ⟩, by simp only [readPosition, readX, readY, readZ]; rfl⟩

/-- Well-typed rows hold some points. -/
theorem exists_hold (typed : ∀ row ∈ rows, WellTyped row.2) : ∃ points, Hold rows points := by
  induction rows with
  | nil => exact ⟨[], .nil⟩
  | cons row rows step =>
    obtain ⟨first, others⟩ := List.forall_mem_cons.mp typed
    obtain ⟨point, read⟩ := exists_readPosition first row.1
    obtain ⟨points, later⟩ := step others
    exact ⟨point :: points, .cons read later⟩

/-- Rows that hold points are read with their numbers. -/
theorem Hold.mapM_eq (hold : Hold rows points) :
    (rows.mapM fun (key, cells) => readPosition key cells) = .ok (rows.keys.zip points) := by
  induction hold with
  | nil => rfl
  | @cons row point rows points read _ step =>
    simp only [List.mapM_cons, step, read]
    rfl

/-- Points come back if their numbers are consecutive. -/
theorem consecutive_range' (points : List (Point Float)) :
    consecutive number (((List.range' number points.length).map Int.ofNat).zip points) =
      .ok points := by
  induction points generalizing number with
  | nil => rfl
  | cons point points step =>
    simp [consecutive, List.range'_succ, step]

/-- Consecutive numbers that start at another one than asked for, or skip one, are reported. -/
theorem consecutive_eq_ok {located : List (Int × Point Float)}
    (read : consecutive number located = .ok points) :
    located.map Prod.fst = (List.range' number located.length).map Int.ofNat := by
  induction located generalizing number points with
  | nil => rfl
  | cons row rest step =>
    obtain ⟨key, point⟩ := row
    unfold consecutive at read
    split at read
    · rename_i same
      split at read
      · rename_i later readLater
        rw [List.map_cons, step readLater, List.length_cons, List.range'_succ, List.map_cons, same]
        rfl
      · cases read
    · cases read

/-- What is wrong with numbers is always that the table of positions is malformed. -/
theorem consecutive_eq_error {located : List (Int × Point Float)} {reason : RecordingError}
    (failed : consecutive number located = .error reason) :
    ∃ text, reason = .malformedPositions text := by
  induction located generalizing number with
  | nil => cases failed
  | cons row rest step =>
    obtain ⟨key, point⟩ := row
    unfold consecutive at failed
    split at failed
    · split at failed
      · cases failed
      · rename_i later failedLater
        exact step (failedLater.trans failed)
    · exact ⟨_, (Except.error.inj failed).symm⟩

end Reading

/-- What loading positions comes to where the table of positions has the given rows. -/
structure LoadsPositions (rows : Rows) (loaded : Except RecordingError (List (Point Float))) :
    Prop where
  succeeds : (∃ points, loaded = .ok points) ↔
    rows ≠ [] ∧ ∀ key, key ∈ rows.keys ↔ 0 ≤ key ∧ key < rows.length
  /-- What is loaded is what the rows hold, in their order. -/
  hold : ∀ points, loaded = .ok points → Hold rows points
  malformed : ∀ reason, loaded = .error reason → ∃ text, reason = .malformedPositions text

section Loading

variable {table : RecordingTable} {relation : Relation} {points : List (Point Float)}

/-- Rows that hold points are loaded by their numbers. -/
theorem readPositions_of_hold (found : table.database.get Schema.positions.name = .ok relation)
    (hold : Hold relation.rows points) : table.readPositions =
      if relation.rows = [] then .error (.malformedPositions "no PMT positions")
      else consecutive 0 (relation.rows.keys.zip points) := by
  rw [readPositions, found]
  dsimp only
  rw [hold.mapM_eq]
  cases rows : relation.rows with
  | nil => rfl
  | cons row others =>
    rw [rows] at hold
    cases hold with
    | cons => rfl

/-- Rows with the first integers for keys give the points that they hold. -/
theorem readPositions_of_numbered
    (found : table.database.get Schema.positions.name = .ok relation)
    (hold : Hold relation.rows points) (inhabited : relation.rows ≠ [])
    (numbered : relation.rows.keys = Rows.numbersBelow relation.rows.length) :
    table.readPositions = .ok points := by
  rw [readPositions_of_hold found hold, if_neg inhabited, numbered, Rows.numbersBelow,
    hold.length_eq, List.range_eq_range']
  exact consecutive_range' points

/-- Loading well-typed positions succeeds exactly if their numbers are the first integers. -/
theorem loadsPositions (found : table.database.get Schema.positions.name = .ok relation)
    (ascending : relation.rows.Ascending) (typed : ∀ row ∈ relation.rows, WellTyped row.2) :
    LoadsPositions relation.rows table.readPositions := by
  obtain ⟨points, hold⟩ := exists_hold typed
  have loaded := readPositions_of_hold found hold
  have enough : relation.rows.keys.length ≤ points.length := by
    rw [Rows.length_keys, hold.length_eq]
  have zipped : (relation.rows.keys.zip points).map Prod.fst = relation.rows.keys :=
    List.map_fst_zip enough
  -- Whatever is loaded, there were rows and their numbers have been compared one by one.
  have numbered {others : List (Point Float)} (read : table.readPositions = .ok others) :
      relation.rows ≠ [] ∧ relation.rows.keys = Rows.numbersBelow relation.rows.length := by
    rw [loaded] at read
    split at read
    · cases read
    · rename_i inhabited
      have numbers := consecutive_eq_ok read
      rw [zipped, List.length_zip, Nat.min_eq_left enough, Rows.length_keys,
        ← List.range_eq_range'] at numbers
      exact ⟨inhabited, numbers⟩
  refine { succeeds := ?succeeds, hold := ?hold, malformed := ?malformed }
  case succeeds =>
    rw [← ascending.keys_eq_numbersBelow_iff]
    constructor
    · rintro ⟨others, read⟩
      exact numbered read
    · rintro ⟨inhabited, same⟩
      exact ⟨points, readPositions_of_numbered found hold inhabited same⟩
  case hold =>
    intro others read
    obtain ⟨inhabited, same⟩ := numbered read
    have back := readPositions_of_numbered found hold inhabited same
    obtain rfl := Except.ok.inj (back.symm.trans read)
    exact hold
  case malformed =>
    intro reason failed
    rw [loaded] at failed
    split at failed
    · exact ⟨_, (Except.error.inj failed).symm⟩
    · exact consecutive_eq_error failed

end Loading

end RecordingTable

end PhotonFerry
