import Mathlib.Data.List.Dedup
import Mathlib.Data.List.Induction
import PhotonFerry.CommandLine.Report
/-!
# What a tally counts

Counting a key adds one under this key and nothing under any other, and keeps the keys in
order. So the counts of some keys are how often each is among them, and all together they
are as many as the keys. A tally of hits counts every hit once for its photomultiplier and
once for the process that made its photon.
-/

namespace PhotonFerry.CommandLine

namespace Counts

variable {κ : Type} {key other : κ} {counts : Counts κ}

@[simp] theorem total_cons (entry : κ × Nat) :
    total (entry :: counts) = entry.2 + total counts := by
  simp [total]

section Keys

variable [DecidableEq κ] [LT κ] [DecidableLT κ]

/-- A key adds one to all that was counted. -/
@[simp] theorem total_add (key : κ) (counts : Counts κ) :
    (add key counts).total = counts.total + 1 := by
  induction counts with
  | nil => rfl
  | cons first rest step =>
    obtain ⟨held, count⟩ := first
    simp only [add]
    split
    · simp only [total_cons]
      omega
    · split
      · simp only [total_cons]
        omega
      · simp only [total_cons, step]
        omega

/-- One more key is counted behind those before it. -/
theorem ofKeys_concat (keys : List κ) (key : κ) :
    ofKeys (keys ++ [key]) = add key (ofKeys keys) := by
  rw [ofKeys, List.foldl_append]
  rfl

/-- Every key is counted once. -/
theorem total_ofKeys (keys : List κ) : (ofKeys keys).total = keys.length := by
  induction keys using List.reverseRecOn with
  | nil => rfl
  | append_singleton earlier last step =>
    rw [ofKeys_concat, total_add, step, List.length_append, List.length_singleton]

/-- Every key is larger than the one before it. -/
def Ascending (counts : Counts κ) : Prop :=
  (counts.map Prod.fst).Pairwise (· < ·)

/-- The keys are those that were there and the one that is counted. -/
theorem mem_keys_add : other ∈ (add key counts).map Prod.fst ↔
    other = key ∨ other ∈ counts.map Prod.fst := by
  induction counts with
  | nil => simp [add]
  | cons first rest step =>
    obtain ⟨held, count⟩ := first
    simp only [add]
    split
    · simp
    · split
      · rename_i same
        simp [same]
      · simp only [List.map_cons, List.mem_cons, step, or_left_comm]

end Keys

section Order

variable [DecidableEq κ] [LT κ] [DecidableLT κ] [LE κ] [Std.IsLinearOrder κ]
  [Std.LawfulOrderLT κ]

omit [DecidableLT κ] [Std.IsLinearOrder κ] in
/-- A key that is smaller than all that are there is not there. -/
theorem lookup_of_least (least : ∀ held ∈ counts.map Prod.fst, key < held) :
    counts.lookup key = none := by
  rw [List.lookup_eq_none_iff]
  intro entry member
  have below := least entry.1 (List.mem_map_of_mem member)
  rw [bne_iff_ne]
  rintro rfl
  exact Std.lt_irrefl below

/-- Counting a key keeps the keys in order. -/
theorem Ascending.add (ascending : counts.Ascending) : (add key counts).Ascending := by
  induction counts with
  | nil => exact List.pairwise_singleton ..
  | cons first rest step =>
    obtain ⟨held, count⟩ := first
    obtain ⟨least, later⟩ := List.pairwise_cons.mp ascending
    simp only [Counts.add]
    split
    · rename_i below
      refine List.pairwise_cons.mpr ⟨fun next member => ?_, ascending⟩
      rcases List.mem_cons.mp member with rfl | behind
      · exact below
      · exact Std.lt_trans below (least next behind)
    · split
      · exact ascending
      · rename_i notBelow different
        have above : held < key := by grind
        refine List.pairwise_cons.mpr ⟨fun next member => ?_, step later⟩
        rcases mem_keys_add.mp member with rfl | behind
        · exact above
        · exact least next behind

/-- Counting a key adds one under this key and changes nothing else. -/
theorem lookup_add (ascending : counts.Ascending) : (add key counts).lookup other =
    if other = key then some ((counts.lookup key).getD 0 + 1) else counts.lookup other := by
  induction counts with
  | nil => grind [add]
  | cons first rest step =>
    obtain ⟨held, count⟩ := first
    obtain ⟨least, later⟩ := List.pairwise_cons.mp ascending
    simp only [add]
    split
    · rename_i below
      have absent : List.lookup key ((held, count) :: rest) = none := by
        refine lookup_of_least fun next member => ?_
        rcases List.mem_cons.mp member with rfl | behind
        · exact below
        · exact Std.lt_trans below (least next behind)
      grind
    · split
      · grind
      · have counted := step later
        grind

/-- The counts of some keys are in order, and each is how often its key is among them. -/
theorem ofKeys_counts (keys : List κ) : (ofKeys keys).Ascending ∧
    ∀ key, (ofKeys keys).lookup key = if key ∈ keys then some (keys.count key) else none := by
  induction keys using List.reverseRecOn with
  | nil => exact ⟨.nil, fun _ => rfl⟩
  | append_singleton earlier last step =>
    obtain ⟨ascending, counted⟩ := step
    rw [ofKeys_concat]
    refine ⟨ascending.add, fun key => ?_⟩
    rw [lookup_add ascending, counted, counted]
    by_cases own : key = last
    · subst own
      by_cases seen : key ∈ earlier
      · simp [seen, List.count_append]
      · simp [seen, List.count_append, List.count_eq_zero.mpr seen]
    · have other : last ≠ key := Ne.symm own
      simp [own, List.count_append, other]

/-- There is a count for each key, however often it was counted. -/
theorem length_ofKeys (keys : List κ) : (ofKeys keys).length = keys.dedup.length := by
  obtain ⟨ascending, counted⟩ := ofKeys_counts keys
  have single : ((ofKeys keys).map Prod.fst).Nodup := by
    refine List.Pairwise.imp (fun below same => ?_) ascending
    exact Std.lt_irrefl (same ▸ below)
  have same : ((ofKeys keys).map Prod.fst).Perm keys.dedup := by
    rw [List.perm_ext_iff_of_nodup single (List.nodup_dedup keys)]
    intro key
    have listed : key ∈ (ofKeys keys).map Prod.fst ↔ (ofKeys keys).lookup key ≠ none := by
      rw [Ne, List.lookup_eq_none_iff]
      simp
    rw [listed, counted, List.mem_dedup]
    simp
  simpa using same.length_eq

end Order

end Counts

namespace HitTally

/-- One more hit is recorded behind those before it. -/
theorem ofHits_concat (hits : List Hit) (hit : Hit) :
    ofHits (hits ++ [hit]) = (ofHits hits).record hit := by
  rw [ofHits, List.foldl_append]
  rfl

/-- What a tally counts are the photomultipliers of the hits and the names of the processes. -/
theorem ofHits_counts (hits : List Hit) :
    (ofHits hits).perPhotomultiplier = .ofKeys (hits.map Hit.id) ∧
      (ofHits hits).perProcess = .ofKeys (hits.map fun hit => hit.creator.label) := by
  induction hits using List.reverseRecOn with
  | nil => exact ⟨rfl, rfl⟩
  | append_singleton earlier last step =>
    rw [ofHits_concat, List.map_append, List.map_append]
    simp only [List.map_cons, List.map_nil, Counts.ofKeys_concat, record, step, and_self]

/-- There is a count for each photomultiplier that was hit. -/
theorem length_perPhotomultiplier (hits : List Hit) :
    (ofHits hits).perPhotomultiplier.length = (hits.map Hit.id).dedup.length := by
  rw [(ofHits_counts hits).1]
  exact Counts.length_ofKeys _

/-- Charges are added in the order of the hits. -/
theorem totalCharge_ofHits (hits : List Hit) :
    (ofHits hits).totalCharge = hits.foldl (fun charge hit => charge + hit.charge) 0.0 := by
  induction hits using List.reverseRecOn with
  | nil => rfl
  | append_singleton earlier last step =>
    rw [ofHits_concat, List.foldl_append, ← step]
    rfl

end HitTally

end PhotonFerry.CommandLine
