import PhotonFerry.Proofs.Recording.Rows
/-!
# Recorded events come back

A recording is a map from event numbers to batches. An event that is stored is read
back bit for bit, whatever the recording held before, and no other event is touched;
storing positions touches no event at all. So a recording that was filled with
batches gives each of them back.
-/

namespace PhotonFerry.RecordingTable

open Recording

/-- The relation of events has the columns of a recording, and keeps the cells of an
event as they are. -/
structure Standard (table : RecordingTable) (relation : Relation) : Prop where
  found : table.database.get Schema.events.name = .ok relation
  named : ∀ column ∈ Schema.events.columns, relation.columns.any (·.name = column.name)
  keeps : ∀ batch, relation.keep (eventCells batch) = .ok (eventCells batch)
  isTable : relation.isView = false

/-- A recording in memory is standard. -/
theorem standard_inMemory : inMemory.Standard Schema.events where
  found := by
    rw [Database.get_eq_ok_iff]
    simp [inMemory, Schema.empty, Schema.required, Database.find?, Relation.isNamed]
  named := by decide
  keeps _ := rfl
  isTable := rfl

section Events

variable {table later : RecordingTable} {relation changed : Relation}
  {batch : PhotoelectronBatch}

/-- Every column that is stored is there. -/
theorem Standard.checkColumns (standard : table.Standard relation) :
    relation.checkColumns Schema.events = .ok () := by
  have none : (Schema.events.columns.find? fun column =>
      !relation.columns.any (·.name = column.name)) = none := by
    rw [List.find?_eq_none]
    intro column member
    simp [standard.named column member]
  rw [Relation.checkColumns, none]

/-- Every column that is read is there. -/
theorem Standard.names (standard : table.Standard relation) :
    ∀ name ∈ Schema.countColumn :: Schema.sampleColumns, relation.columns.any (·.name = name) := by
  have names : Schema.countColumn :: Schema.sampleColumns =
      Schema.events.columns.map Column.name := rfl
  rw [names, List.forall_mem_map]
  exact standard.named

theorem Standard.hasEvents (standard : table.Standard relation) : table.HasEvents relation where
  found := standard.found
  named := standard.names

/-- What is read of an event depends on the database only. -/
theorem readEvent_of_database (same : table.database = later.database) (event : UInt32) :
    table.readEvent event = later.readEvent event := by
  simp only [readEvent, same]

/-- What is read of an event is decided by its row. -/
theorem readEvent_congr (standard : table.Standard relation) (after : later.Standard changed)
    {event : UInt32} (same : changed.rows.find? event.toNat = relation.rows.find? event.toNat) :
    later.readEvent event = table.readEvent event := by
  unfold readEvent
  rw [standard.found, after.found]
  dsimp only
  rw [standard.hasEvents.readColumns, after.hasEvents.readColumns, same]

/-- An event is read from the cells that were stored for it. -/
theorem readEvent_of_row (standard : table.Standard relation) (aligned : batch.Aligned)
    (stored : relation.rows.find? batch.event.toNat = some (eventCells batch)) :
    table.readEvent batch.event = .ok batch :=
  readEvent_eq_ok_iff.mpr {
    labelled := rfl
    aligned := aligned
    row := ⟨relation, [], standard.found, standard.names, by rw [stored, List.append_nil]⟩ }

/-- A relation that was changed in its rows takes the place of the one before. -/
theorem Standard.put (standard : table.Standard relation) (rows : Rows) :
    ({ table with database := table.database.put { relation with rows } } :
      RecordingTable).Standard { relation with rows } where
  found := Database.get_put standard.found rfl
  named := standard.named
  keeps := standard.keeps
  isTable := standard.isTable

/-- Storing an event puts its cells under its number. -/
theorem insertEvent_of_standard (standard : table.Standard relation)
    (writable : table.writable = true) (batch : PhotoelectronBatch) :
    table.insertEvent batch = .ok { table with database := table.database.put { relation with
      rows := relation.rows.put batch.event.toNat (eventCells batch) } } := by
  simp only [insertEvent, target, standard.found, standard.isTable, bind, Except.bind,
    Bool.false_eq_true, if_false, standard.checkColumns, writable, if_true, Relation.replace,
    standard.keeps]

/-- Storing an event succeeds, gives it back, and touches no other event. -/
theorem exists_insertEvent (standard : table.Standard relation) (writable : table.writable = true)
    (batch : PhotoelectronBatch) :
    ∃ later changed, table.insertEvent batch = .ok later ∧ later.Standard changed ∧
      later.writable = true ∧ (batch.Aligned → later.readEvent batch.event = .ok batch) ∧
      ∀ event, event ≠ batch.event → later.readEvent event = table.readEvent event := by
  let rows := relation.rows.put batch.event.toNat (eventCells batch)
  have after := standard.put rows
  refine ⟨_, _, insertEvent_of_standard standard writable batch, after, writable,
    fun aligned => ?_, fun event other => ?_⟩
  · refine readEvent_of_row after aligned ?_
    simp only [rows, Rows.find?_put, if_true]
  · refine readEvent_congr standard after ?_
    have apart : (batch.event.toNat : Int) ≠ event.toNat := fun same =>
      other (UInt32.toNat_inj.mp (Int.ofNat.inj same)).symm
    simp only [rows, Rows.find?_put, apart, if_false]

/-- Adding a row changes nothing but the rows. -/
theorem exists_rows_of_insert {keyCell : Cell} {cells : List Cell}
    (inserted : relation.insert keyCell cells = .ok changed) :
    ∃ rows, changed = { relation with rows } := by
  simp only [Relation.insert, bind_eq_ok_iff] at inserted
  obtain ⟨key, -, kept, -, put⟩ := inserted
  split at put
  · cases put
  · exact ⟨_, (Except.ok.inj put).symm⟩

/-- So does adding positions. -/
theorem exists_rows_of_insertFrom {number : Nat} {points : List (Point Float)}
    (added : insertFrom number relation points = .ok changed) :
    ∃ rows, changed = { relation with rows } := by
  induction points generalizing number relation with
  | nil => exact ⟨relation.rows, (Except.ok.inj added).symm⟩
  | cons point rest step =>
    obtain ⟨middle, inserted, later⟩ := bind_eq_ok_iff.mp added
    obtain ⟨rows, rfl⟩ := exists_rows_of_insert inserted
    obtain ⟨final, rfl⟩ := step later
    exact ⟨final, rfl⟩

/-- A relation can be changed if it is there and no view. -/
theorem target_eq_ok_iff {name : String} : table.target name = .ok relation ↔
    table.database.get name = .ok relation ∧ relation.isView = false := by
  rw [target, bind_eq_ok_iff]
  constructor
  · rintro ⟨found, get, here⟩
    split at here
    · cases here
    · rename_i isTable
      obtain rfl := Except.ok.inj here
      exact ⟨get, by simpa using isTable⟩
  · rintro ⟨get, isTable⟩
    exact ⟨relation, get, by rw [isTable]; rfl⟩

/-- Positions are stored where there is a table for them that can be written and has their
columns. -/
theorem insertPositions_eq_ok_iff {points : List (Point Float)} :
    table.insertPositions points = .ok later ↔ ∃ relation changed,
      table.target Schema.positions.name = .ok relation ∧ table.writable = true ∧
        relation.checkColumns Schema.positions = .ok () ∧
        insertFrom 0 { relation with rows := [] } points = .ok changed ∧
        { table with database := table.database.put changed } = later := by
  rw [RecordingTable.insertPositions, bind_eq_ok_iff]
  cases writable : table.writable with
  | false => simp
  | true =>
    have passes (result : Except StoreError Unit) :
        (∃ passed, result = .ok passed) ↔ result = .ok () :=
      ⟨fun ⟨(), passed⟩ => passed, fun passed => ⟨(), passed⟩⟩
    simp only [if_true, bind_eq_ok_iff, Except.ok.injEq, true_and, exists_and_left,
      exists_and_right, passes]

/-- Storing positions touches no event. -/
theorem Standard.insertPositions (standard : table.Standard relation) {points : List (Point Float)}
    (stored : table.insertPositions points = .ok later) :
    later.Standard relation ∧ later.writable = table.writable := by
  obtain ⟨positions, changed, targeted, -, -, added, rfl⟩ := insertPositions_eq_ok_iff.mp stored
  obtain ⟨found, -⟩ := target_eq_ok_iff.mp targeted
  -- The two relations have different names, so that a statement never means one for the other.
  have apart : changed.name.toLower ≠ Schema.events.name.toLower := by
    have name : positions.name.toLower = Schema.positions.name.toLower := by
      simpa [Relation.isNamed] using Database.isNamed_of_get found
    obtain ⟨rows, rfl⟩ := exists_rows_of_insertFrom added
    rw [name]
    decide +kernel
  exact ⟨{ standard with found := (Database.get_put_of_apart _ apart).trans standard.found }, rfl⟩

end Events

/-- A recording that was made for writing and filled with batches, one after the
other. Whatever it held before stays under other event numbers, and positions may be
stored at any time. -/
inductive Filled : List PhotoelectronBatch → RecordingTable → Prop where
  | made {table : RecordingTable} {relation : Relation} (standard : table.Standard relation)
      (writable : table.writable = true) : Filled [] table
  | event {batches : List PhotoelectronBatch} {table later : RecordingTable}
      {batch : PhotoelectronBatch} (earlier : Filled batches table)
      (stored : table.insertEvent batch = .ok later) : Filled (batches ++ [batch]) later
  | positions {batches : List PhotoelectronBatch} {table later : RecordingTable}
      {points : List (Point Float)} (earlier : Filled batches table)
      (stored : table.insertPositions points = .ok later) : Filled batches later

section Filling

variable {batches : List PhotoelectronBatch} {table : RecordingTable}

/-- A recording stays one that can be written and read. -/
theorem Filled.standard (filled : Filled batches table) :
    (∃ relation, table.Standard relation) ∧ table.writable = true := by
  induction filled with
  | made standard writable => exact ⟨⟨_, standard⟩, writable⟩
  | @event _ _ _ batch earlier stored step =>
    obtain ⟨⟨relation, standard⟩, writable⟩ := step
    obtain ⟨later, changed, made, after, kept, -⟩ := exists_insertEvent standard writable batch
    obtain rfl := Except.ok.inj (made.symm.trans stored)
    exact ⟨⟨changed, after⟩, kept⟩
  | positions earlier stored step =>
    obtain ⟨⟨relation, standard⟩, writable⟩ := step
    obtain ⟨after, kept⟩ := standard.insertPositions stored
    exact ⟨⟨relation, after⟩, kept.trans writable⟩

/-- Any batches can be stored. -/
theorem Filled.exists_later (filled : Filled batches table) (further : List PhotoelectronBatch) :
    ∃ later, Filled (batches ++ further) later := by
  induction further generalizing batches table with
  | nil => exact ⟨table, by rwa [List.append_nil]⟩
  | cons batch further step =>
    obtain ⟨⟨relation, standard⟩, writable⟩ := filled.standard
    obtain ⟨next, -, stored, -⟩ := exists_insertEvent standard writable batch
    obtain ⟨later, made⟩ := step (filled.event stored)
    exact ⟨later, by rwa [List.append_assoc] at made⟩

/-- Every batch is read back, if all are for different events. -/
theorem Filled.readEvent (filled : Filled batches table)
    (different : (batches.map PhotoelectronBatch.event).Nodup)
    (aligned : ∀ batch ∈ batches, batch.Aligned) :
    ∀ batch ∈ batches, table.readEvent batch.event = .ok batch := by
  induction filled with
  | made => exact fun _ member => nomatch member
  | @event batches table later last earlier stored step =>
    obtain ⟨⟨relation, standard⟩, writable⟩ := earlier.standard
    obtain ⟨next, -, made, -, -, own, others⟩ := exists_insertEvent standard writable last
    obtain rfl := Except.ok.inj (made.symm.trans stored)
    simp only [List.map_append, List.map_cons, List.map_nil, List.nodup_append] at different
    obtain ⟨before, -, apart⟩ := different
    intro batch member
    rcases List.mem_append.mp member with old | new
    · have other : batch.event ≠ last.event :=
        apart _ (List.mem_map_of_mem old) _ (List.mem_singleton.mpr rfl)
      rw [others batch.event other]
      exact step before (fun one member => aligned one (List.mem_append_left _ member)) batch old
    · rw [List.mem_singleton.mp new]
      exact own (aligned last (List.mem_append_right _ (List.mem_singleton.mpr rfl)))
  | positions earlier stored step =>
    intro batch member
    obtain ⟨⟨relation, standard⟩, -⟩ := earlier.standard
    rw [readEvent_congr standard (standard.insertPositions stored).1 rfl]
    exact step different aligned batch member

end Filling

end PhotonFerry.RecordingTable
