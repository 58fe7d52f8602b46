import Mathlib.Data.List.Nodup
import Mathlib.Data.List.Perm.Basic
import PhotonFerry.Detector.Catalog
/-!
# Catalogs are dense

Sorting by id and comparing each id with its place finds every repetition, every gap and
every id that is too large: a catalog is built exactly if the ids are a permutation of the
numbers below the count, and each photomultiplier refers to a model. Distinct ids have one
ascending order, so the order in which the photomultipliers are given leaves no trace.
-/

namespace PhotonFerry.Catalog

variable {models : List String} {entries reordered : List Photomultiplier}

/-- The ids of photomultipliers, in their order. -/
def ids (entries : List Photomultiplier) : List Nat :=
  entries.map fun entry => entry.id.toNat

/-- The ids run from zero without gaps, in some order. -/
def Dense (entries : List Photomultiplier) : Prop :=
  (ids entries).Perm (List.range entries.length)

/-- The photomultiplier's model is one of those that are named, if any is. -/
def Refers (models : List String) (entry : Photomultiplier) : Prop :=
  models ≠ [] → entry.model < models.length

@[simp] theorem length_ids (entries : List Photomultiplier) :
    (ids entries).length = entries.length :=
  List.length_map ..

theorem Dense.nodup (dense : Dense entries) : (ids entries).Nodup :=
  dense.nodup_iff.mpr List.nodup_range

/-- Where the ids are the places, what stands at a place has it for its id. -/
theorem id_of_getElem? {count place : Nat} {entry : Photomultiplier}
    (numbered : ids entries = List.range count) (found : entries[place]? = some entry) :
    entry.id.toNat = place := by
  have atPlace : (List.range count)[place]? = some entry.id.toNat := by
    rw [← numbered, ids, List.getElem?_map, found, Option.map_some]
  obtain ⟨_, same⟩ := List.getElem?_eq_some_iff.mp atPlace
  rwa [List.getElem_range, eq_comm] at same

/-- Photomultipliers of one id are one. -/
theorem Dense.eq_of_id {first second : Photomultiplier} (dense : Dense entries)
    (firstMember : first ∈ entries) (secondMember : second ∈ entries)
    (same : first.id = second.id) : first = second :=
  List.inj_on_of_nodup_map dense.nodup firstMember secondMember (congrArg UInt32.toNat same)

/-- Photomultipliers in another order are dense too. -/
theorem Dense.of_perm (dense : Dense entries) (same : reordered.Perm entries) :
    Dense reordered := by
  rw [Dense, same.length_eq]
  exact (same.map _).trans dense

/-! ## The check -/

/-- The check passes where ids are places and models are known. -/
theorem check_eq_ok_iff {place : Nat} :
    check models place entries = .ok () ↔
      ids entries = List.range' place entries.length ∧ ∀ entry ∈ entries, Refers models entry := by
  induction entries generalizing place with
  | nil => simp [check, ids]
  | cons entry rest step =>
    have numbering : ids (entry :: rest) = List.range' place (rest.length + 1) ↔
        entry.id.toNat = place ∧ ids rest = List.range' (place + 1) rest.length := by
      rw [ids, List.map_cons, List.range'_succ, List.cons.injEq, ids]
    have known : (!models.isEmpty && decide (models.length ≤ entry.model)) = true ↔
        ¬Refers models entry := by
      simp [Refers]
    rw [List.forall_mem_cons, List.length_cons, numbering, check]
    split
    · rename_i displaced
      simp [displaced]
    · rename_i numbered
      have numbered := not_not.mp numbered
      split
      · rename_i unknown
        simp [known.mp unknown]
      · rename_i refers
        rw [step]
        simp [numbered, not_not.mp (mt known.mpr refers)]

/-! ## The order of the ids -/

/-- The photomultipliers in the order of their ids. -/
def byId (entries : List Photomultiplier) : List Photomultiplier :=
  entries.mergeSort fun left right => left.id ≤ right.id

theorem byId_perm (entries : List Photomultiplier) : (byId entries).Perm entries :=
  List.mergeSort_perm ..

theorem byId_ascending (entries : List Photomultiplier) :
    (byId entries).Pairwise fun left right => left.id ≤ right.id := by
  have sorted := @List.pairwise_mergeSort _ (fun left right : Photomultiplier =>
    decide (left.id ≤ right.id)) ?transitive ?total entries
  case transitive =>
    intro first second third before behind
    exact decide_eq_true (UInt32.le_trans (of_decide_eq_true before) (of_decide_eq_true behind))
  case total =>
    intro left right
    simpa using UInt32.le_total left.id right.id
  exact sorted.imp of_decide_eq_true

/-- In order, the ids are the places exactly if they are dense. -/
theorem dense_iff : Dense entries ↔ ids (byId entries) = List.range entries.length := by
  have same : (ids (byId entries)).Perm (ids entries) := (byId_perm entries).map _
  constructor
  · intro dense
    refine (same.trans dense).eq_of_pairwise (fun _ _ _ _ => Nat.le_antisymm) ?_
      List.pairwise_le_range
    exact List.pairwise_map.mpr ((byId_ascending entries).imp UInt32.le_iff_toNat_le.mp)
  · intro numbered
    exact same.symm.trans (.of_eq numbered)

/-- Dense photomultipliers have one order of ids, however they are given. -/
theorem byId_eq_of_perm (dense : Dense entries) (same : reordered.Perm entries) :
    byId reordered = byId entries := by
  have perm : (byId reordered).Perm (byId entries) :=
    ((byId_perm reordered).trans same).trans (byId_perm entries).symm
  refine perm.eq_of_pairwise (fun first second among also before behind => ?_)
    (byId_ascending reordered) (byId_ascending entries)
  exact dense.eq_of_id (same.mem_iff.mp ((byId_perm reordered).mem_iff.mp among))
    ((byId_perm entries).mem_iff.mp also) (UInt32.le_antisymm before behind)

/-- A catalog is built of dense photomultipliers with known models, and holds them in order. -/
theorem build_eq_ok_iff {catalog : Catalog} :
    build models entries = .ok catalog ↔
      (Dense entries ∧ ∀ entry ∈ entries, Refers models entry) ∧
        catalog = ⟨models, (byId entries).toArray⟩ := by
  have checked : check models 0 (byId entries) = .ok () ↔
      Dense entries ∧ ∀ entry ∈ entries, Refers models entry := by
    rw [check_eq_ok_iff, (byId_perm entries).length_eq, ← List.range_eq_range', ← dense_iff]
    exact and_congr_right' (by simp only [(byId_perm entries).mem_iff])
  rw [← checked]
  simp only [build]
  split
  · rename_i passed
    have passed : check models 0 (byId entries) = .ok () := passed
    simp only [passed, true_and, Except.ok.injEq]
    exact eq_comm
  · rename_i reason failed
    have failed : check models 0 (byId entries) = .error reason := failed
    simp only [failed, reduceCtorEq, false_and]

/-- Where ids are distinct, a photomultiplier is the one with its id. -/
theorem filter_id_eq (distinct : (ids entries).Nodup) {entry : Photomultiplier}
    (member : entry ∈ entries) : (entries.filter fun other => other.id = entry.id) = [entry] := by
  obtain ⟨before, behind, rfl⟩ := List.append_of_mem member
  have others : ∀ other ∈ before ++ behind, ¬other.id = entry.id := by
    rw [ids, List.map_append, List.map_cons, List.nodup_middle, ← List.map_append] at distinct
    intro other among same
    exact (List.nodup_cons.mp distinct).1
      (List.mem_map.mpr ⟨other, among, congrArg UInt32.toNat same⟩)
  have early : (before.filter fun other => other.id = entry.id) = [] :=
    List.filter_eq_nil_iff.mpr fun other among => by
      simpa using others other (List.mem_append_left behind among)
  have late : (behind.filter fun other => other.id = entry.id) = [] :=
    List.filter_eq_nil_iff.mpr fun other among => by
      simpa using others other (List.mem_append_right before among)
  rw [List.filter_append, List.filter_cons_of_pos (by simp), early, late, List.nil_append]

/-- What a catalog that was built of some photomultipliers holds. -/
structure Holds (models : List String) (entries : List Photomultiplier) (catalog : Catalog) :
    Prop where
  models_eq : catalog.models = models
  entries_perm : catalog.entries.toList.Perm entries
  id_eq_place : ids catalog.entries.toList = List.range catalog.size
  /-- Under each id stands the one photomultiplier that was given with it. -/
  find?_eq_some : ∀ id : UInt32, id.toNat < entries.length → ∃ entry,
    (entries.filter fun other => other.id = id) = [entry] ∧ catalog.find? id = some entry

/-- A catalog that was built holds what it was built of. -/
theorem holds_of_build {catalog : Catalog} (built : build models entries = .ok catalog) :
    Holds models entries catalog := by
  obtain ⟨⟨dense, -⟩, rfl⟩ := build_eq_ok_iff.mp built
  have numbered : ids (byId entries) = List.range entries.length := dense_iff.mp dense
  have size : (byId entries).length = entries.length := (byId_perm entries).length_eq
  refine {
    models_eq := rfl
    entries_perm := byId_perm entries
    id_eq_place := numbered.trans (congrArg List.range size.symm)
    find?_eq_some := fun id inside => ?_ }
  obtain ⟨entry, found⟩ : ∃ entry, (byId entries)[id.toNat]? = some entry :=
    ⟨_, List.getElem?_eq_getElem (size ▸ inside)⟩
  have place : entry.id = id := UInt32.toNat_inj.mp (id_of_getElem? numbered found)
  have member : entry ∈ entries := (byId_perm entries).mem_iff.mp (List.mem_of_getElem? found)
  refine ⟨entry, ?_, ?_⟩
  · rw [← place]
    exact filter_id_eq dense.nodup member
  · rw [find?, List.getElem?_toArray, found]

/-- A catalog that was built has each photomultiplier under its id. -/
theorem id_of_find? {catalog : Catalog} (built : build models entries = .ok catalog)
    {id : UInt32} {target : Photomultiplier} (found : catalog.find? id = some target) :
    target.id = id := by
  rw [find?, ← Array.getElem?_toList] at found
  exact UInt32.toNat_inj.mp (id_of_getElem? (holds_of_build built).id_eq_place found)

/-- Photomultipliers in another order make the same catalog. -/
theorem build_of_perm {catalog : Catalog} (same : reordered.Perm entries)
    (built : build models entries = .ok catalog) : build models reordered = .ok catalog := by
  obtain ⟨⟨dense, refers⟩, rfl⟩ := build_eq_ok_iff.mp built
  refine build_eq_ok_iff.mpr ⟨⟨dense.of_perm same, fun entry among => ?_⟩, ?_⟩
  · exact refers entry (same.mem_iff.mp among)
  · rw [byId_eq_of_perm dense same]

/-- A catalog is built exactly if the ids are a permutation of the numbers below the count and
each photomultiplier refers to a model, where models are named. It holds what it was built of,
each photomultiplier under its id. In another order the same photomultipliers make the same
catalog, or none either. -/
theorem builds_dense (models : List String) (entries : List Photomultiplier) :
    ((∃ catalog, build models entries = .ok catalog) ↔
      Dense entries ∧ ∀ entry ∈ entries, Refers models entry) ∧
    (∀ catalog, build models entries = .ok catalog → Holds models entries catalog) ∧
    ∀ reordered, reordered.Perm entries →
      (build models reordered).toOption = (build models entries).toOption := by
  refine ⟨?built, fun catalog => holds_of_build, fun reordered same => ?reordered⟩
  case built =>
    constructor
    · rintro ⟨catalog, built⟩
      exact (build_eq_ok_iff.mp built).1
    · intro sound
      exact ⟨_, build_eq_ok_iff.mpr ⟨sound, rfl⟩⟩
  case reordered =>
    -- A catalog of either order is the catalog of both, so that an error is one of both, too.
    cases ordered : build models entries with
    | ok catalog => rw [build_of_perm same ordered]
    | error reason =>
      cases other : build models reordered with
      | ok catalog => exact nomatch ordered.symm.trans (build_of_perm same.symm other)
      | error reason => rfl

end PhotonFerry.Catalog
