import PhotonFerry.Proofs.Recording.Events
import PhotonFerry.Proofs.Recording.Keys
/-!
# A recording is a map

Storing batches one after the other in an empty recording makes it the map that a list of
bindings stands for: under each event the last batch that was stored for it, and nothing
under any other event. One step is enough for this: to store a batch puts one row, under
one key, and leaves the rows in order.
-/

namespace PhotonFerry.RecordingTable

open Recording

/-- Store batches one after the other. -/
def insertEvents (batches : List PhotoelectronBatch) (table : RecordingTable) :
    Except StoreError RecordingTable :=
  batches.foldlM (fun held batch => held.insertEvent batch) table

/-- The last of some batches for an event. -/
def latest (event : UInt32) (batches : List PhotoelectronBatch) : Option PhotoelectronBatch :=
  batches.reverse.find? (·.event = event)

section Latest

variable {event : UInt32} {batches : List PhotoelectronBatch} {batch : PhotoelectronBatch}

/-- One more batch is the last for its event, and changes nothing for the others. -/
theorem latest_concat : latest event (batches ++ [batch]) =
    if batch.event = event then some batch else latest event batches := by
  rw [latest, List.reverse_concat, List.find?_cons]
  by_cases same : batch.event = event <;> simp [same, latest]

theorem event_of_latest (last : latest event batches = some batch) : batch.event = event := by
  simpa using List.find?_some last

theorem mem_of_latest (last : latest event batches = some batch) : batch ∈ batches :=
  List.mem_reverse.mp (List.mem_of_find?_eq_some last)

end Latest

/-- A recording holds of the batches the last one for each event, and nothing else. -/
structure Keeps (table : RecordingTable) (relation : Relation)
    (batches : List PhotoelectronBatch) : Prop where
  standard : table.Standard relation
  writable : table.writable = true
  ascending : relation.rows.Ascending
  found : ∀ event : UInt32,
    relation.rows.find? event.toNat = (latest event batches).map eventCells
  keys : ∀ key, key ∈ relation.rows.keys ↔ ∃ batch ∈ batches, key = batch.event.toNat

section Steps

variable {table : RecordingTable} {relation : Relation} {batches : List PhotoelectronBatch}

/-- An empty recording keeps no batch. -/
theorem Standard.keeps_nil (standard : table.Standard relation) (writable : table.writable = true)
    (fresh : relation.rows = []) : table.Keeps relation [] where
  standard := standard
  writable := writable
  ascending := by rw [fresh]; exact List.Pairwise.nil
  found event := by rw [fresh]; rfl
  keys key := by simp [fresh, Rows.keys]

/-- A batch that is stored is kept as the last for its event. -/
theorem Keeps.exists_insertEvent (keeps : table.Keeps relation batches)
    (batch : PhotoelectronBatch) :
    ∃ later changed, table.insertEvent batch = .ok later ∧
      later.Keeps changed (batches ++ [batch]) := by
  refine ⟨_, _, insertEvent_of_standard keeps.standard keeps.writable batch, {
    standard := keeps.standard.put _
    writable := keeps.writable
    ascending := keeps.ascending.put
    found := fun event => ?_
    keys := fun key => ?_ }⟩
  · have same : (batch.event.toNat : Int) = event.toNat ↔ batch.event = event := by
      rw [Int.natCast_inj, UInt32.toNat_inj]
    rw [Rows.find?_put, latest_concat, keeps.found]
    by_cases own : batch.event = event
    · rw [if_pos own, if_pos (same.mpr own), Option.map_some]
    · rw [if_neg own, if_neg (mt same.mp own)]
  · rw [Rows.mem_keys_put, keeps.keys]
    simp [or_comm]

/-- Any batches can be stored, one after the other. -/
theorem Keeps.exists_insertEvents (keeps : table.Keeps relation batches)
    (further : List PhotoelectronBatch) :
    ∃ later changed, insertEvents further table = .ok later ∧
      later.Keeps changed (batches ++ further) := by
  induction further generalizing table relation batches with
  | nil => exact ⟨table, relation, rfl, by rwa [List.append_nil]⟩
  | cons batch further step =>
    obtain ⟨next, between, stored, kept⟩ := keeps.exists_insertEvent batch
    obtain ⟨later, changed, behind, held⟩ := step kept
    refine ⟨later, changed, ?_, by rwa [List.append_assoc] at held⟩
    rw [insertEvents, List.foldlM_cons, stored]
    exact behind

/-- What is loaded is the last batch for the event, whatever the receiver holds. -/
theorem Keeps.loadEvent (keeps : table.Keeps relation batches)
    (aligned : ∀ batch ∈ batches, batch.Aligned) (event : UInt32) (out : PhotoelectronBatch) :
    table.loadEvent event out =
      match latest event batches with
      | some batch => (.ok (), batch)
      | none => (.error (.missingEvent event), out) := by
  have row := keeps.found event
  cases last : latest event batches with
  | none =>
    rw [last, Option.map_none] at row
    rw [RecordingTable.loadEvent, keeps.standard.hasEvents.readEvent_missing row]
  | some batch =>
    obtain rfl := event_of_latest last
    rw [last, Option.map_some] at row
    rw [RecordingTable.loadEvent,
      readEvent_of_row keeps.standard (aligned batch (mem_of_latest last)) row]

/-- There are as many rows as different events. -/
theorem Keeps.eventCount (keeps : table.Keeps relation batches) :
    table.eventCount = .ok (batches.map PhotoelectronBatch.event).toFinset.card := by
  let number (event : UInt32) : Int := event.toNat
  have injective : Function.Injective number := fun _ _ same =>
    UInt32.toNat_inj.mp (Int.natCast_inj.mp same)
  have same : relation.rows.keys.toFinset =
      (batches.map PhotoelectronBatch.event).toFinset.image number := by
    ext key
    simp only [List.mem_toFinset, Finset.mem_image, keeps.keys, List.mem_map, number]
    constructor
    · rintro ⟨batch, member, rfl⟩
      exact ⟨_, ⟨batch, member, rfl⟩, rfl⟩
    · rintro ⟨-, ⟨batch, member, rfl⟩, rfl⟩
      exact ⟨batch, member, rfl⟩
  rw [RecordingTable.eventCount, rowCount, keeps.standard.found]
  dsimp only
  rw [← Rows.length_keys, ← List.toFinset_card_of_nodup keeps.ascending.nodup, same,
    Finset.card_image_of_injective _ injective]

end Steps

/-- A recording that was empty is the map of what was stored in it. To store batches never fails.
After that each event loads as the last batch that was stored for it, bit for bit and whatever the
receiver holds, and is missing if there is none; there are as many events as different numbers
among the batches; and to store one more batch changes what no other event loads. -/
theorem latest_batches_load {table : RecordingTable} {relation : Relation}
    (standard : table.Standard relation) (writable : table.writable = true)
    (fresh : relation.rows = []) {batches : List PhotoelectronBatch}
    (aligned : ∀ batch ∈ batches, batch.Aligned) :
    ∃ later, insertEvents batches table = .ok later ∧
      (∀ event out, later.loadEvent event out =
        match latest event batches with
        | some batch => (.ok (), batch)
        | none => (.error (.missingEvent event), out)) ∧
      later.eventCount = .ok (batches.map PhotoelectronBatch.event).toFinset.card ∧
      ∀ batch, ∃ next, later.insertEvent batch = .ok next ∧
        ∀ event, event ≠ batch.event → ∀ out,
          next.loadEvent event out = later.loadEvent event out := by
  obtain ⟨later, changed, stored, keeps⟩ :=
    (standard.keeps_nil writable fresh).exists_insertEvents batches
  rw [List.nil_append] at keeps
  refine ⟨later, stored, keeps.loadEvent aligned, keeps.eventCount, fun batch => ?_⟩
  obtain ⟨next, -, again, -, -, -, others⟩ :=
    RecordingTable.exists_insertEvent keeps.standard keeps.writable batch
  refine ⟨next, again, fun event other out => ?_⟩
  rw [RecordingTable.loadEvent, RecordingTable.loadEvent, others event other]

/-- Three batches for two events, in a recording in memory. -/
theorem latest_batches_load_inMemory :
    let sample : Photoelectron := ⟨7, ⟨0x7fc00001⟩, ⟨0x43c80000⟩, ⟨⟨1⟩, ⟨2⟩, ⟨3⟩⟩,
      ⟨⟨4⟩, ⟨5⟩, ⟨0x80000000⟩⟩, 4294967295⟩
    let first : PhotoelectronBatch := (PhotoelectronBatch.empty.setEvent 1).push sample
    let other : PhotoelectronBatch := PhotoelectronBatch.empty.setEvent 4294967295
    let second : PhotoelectronBatch := first.push { sample with channel := 0 }
    inMemory.Standard Schema.events ∧ inMemory.writable = true ∧ Schema.events.rows = [] ∧
      (∀ batch ∈ [first, other, second], batch.Aligned) ∧
      ∃ later, insertEvents [first, other, second] inMemory = .ok later ∧
        (∀ out, later.loadEvent 1 out = (.ok (), second)) ∧
        (∀ out, later.loadEvent 0 out = (.error (.missingEvent 0), out)) ∧
        later.eventCount = .ok 2 := by
  intro sample first other second
  have aligned : ∀ batch ∈ [first, other, second], batch.Aligned := by decide
  obtain ⟨later, stored, loads, counted, -⟩ :=
    latest_batches_load standard_inMemory rfl rfl aligned
  exact ⟨standard_inMemory, rfl, rfl, aligned, later, stored, loads 1, loads 0, counted⟩

end PhotonFerry.RecordingTable
