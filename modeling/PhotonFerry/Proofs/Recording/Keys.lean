import Mathlib.Data.Finset.Card
import Mathlib.Data.List.Perm.Subperm
import PhotonFerry.Recording.Relation
/-!
# Keys of rows

A row is found under each key and under nothing else, and putting a row adds its key. No
key is there twice in ascending rows, and putting keeps them ascending. If there are no
more rows than consecutive keys that are found, these are all the keys.
-/

namespace PhotonFerry.Recording.Rows

variable {rows : Rows} {key other : Int} {cells : List Cell}

/-- The keys of the rows, in their order. -/
def keys (rows : Rows) : List Int :=
  rows.map Prod.fst

/-- Every key is larger than the one before it. -/
def Ascending (rows : Rows) : Prop :=
  rows.keys.Pairwise (· < ·)

@[simp] theorem length_keys : rows.keys.length = rows.length :=
  List.length_map ..

instance (rows : Rows) : Decidable rows.Ascending :=
  inferInstanceAs (Decidable (List.Pairwise _ _))

/-- A row is found under the keys. -/
theorem mem_keys_iff : key ∈ rows.keys ↔ (rows.find? key).isSome := by
  induction rows with
  | nil => simp [keys, find?]
  | cons first rest step =>
    obtain ⟨held, cells⟩ := first
    simp only [keys, List.map_cons, List.mem_cons, find?] at step ⊢
    rw [step]
    split
    · rename_i same
      simp [same]
    · rename_i different
      simp [Ne.symm different]

/-- Putting a row adds its key. -/
theorem mem_keys_put : other ∈ (put key cells rows).keys ↔ other = key ∨ other ∈ rows.keys := by
  rw [mem_keys_iff, mem_keys_iff, find?_put]
  split
  · simp [*]
  · rename_i different
    simp [Ne.symm different]

/-- A row with the largest key goes behind the others. -/
theorem put_of_last (last : ∀ held ∈ rows.keys, held < key) :
    rows.put key cells = rows ++ [(key, cells)] := by
  induction rows with
  | nil => rfl
  | cons first rest step =>
    obtain ⟨held, kept⟩ := first
    obtain ⟨below, later⟩ := List.forall_mem_cons.mp last
    have other : key ≠ held := by omega
    have notBelow : ¬key < held := by omega
    rw [Rows.put, if_neg notBelow, if_neg other, step later, List.cons_append]

/-- Putting a row keeps the rows in order. -/
theorem Ascending.put (ascending : rows.Ascending) : (rows.put key cells).Ascending := by
  induction rows with
  | nil => exact List.pairwise_singleton ..
  | cons first rest step =>
    obtain ⟨held, kept⟩ := first
    obtain ⟨least, later⟩ := List.pairwise_cons.mp ascending
    simp only [Rows.put]
    split
    · rename_i below
      refine List.pairwise_cons.mpr ⟨fun next member => ?_, ascending⟩
      rcases List.mem_cons.mp member with rfl | behind
      · exact below
      · exact Int.lt_trans below (least next behind)
    · split
      · rename_i same
        exact List.pairwise_cons.mpr ⟨same ▸ least, later⟩
      · refine List.pairwise_cons.mpr ⟨fun next member => ?_, step later⟩
        rcases mem_keys_put.mp member with rfl | behind
        · omega
        · exact least next behind

theorem Ascending.nodup (ascending : rows.Ascending) : rows.keys.Nodup :=
  ascending.imp Int.ne_of_lt

/-- The integers from zero up to a number, in order. -/
def numbersBelow (count : Nat) : List Int :=
  (List.range count).map Int.ofNat

@[simp] theorem length_numbersBelow (count : Nat) : (numbersBelow count).length = count := by
  simp [numbersBelow]

theorem mem_numbersBelow {count : Nat} : key ∈ numbersBelow count ↔ 0 ≤ key ∧ key < count := by
  rw [numbersBelow, List.mem_map]
  constructor
  · rintro ⟨index, below, rfl⟩
    exact ⟨Int.natCast_nonneg index, Int.ofNat_lt.mpr (List.mem_range.mp below)⟩
  · rintro ⟨positive, below⟩
    exact ⟨key.toNat, List.mem_range.mpr (by omega), Int.toNat_of_nonneg positive⟩

theorem ascending_numbersBelow (count : Nat) : (numbersBelow count).Pairwise (· < ·) :=
  List.pairwise_map.mpr (List.pairwise_lt_range.imp Int.ofNat_lt.mpr)

theorem nodup_numbersBelow (count : Nat) : (numbersBelow count).Nodup :=
  (ascending_numbersBelow count).imp Int.ne_of_lt

/-- If every number below the number of rows is a key, there is no other key. -/
theorem mem_keys_iff_of_counted
    (counted : ∀ number < rows.length, (number : Int) ∈ rows.keys) :
    key ∈ rows.keys ↔ 0 ≤ key ∧ key < rows.length := by
  have among : numbersBelow rows.length ⊆ rows.keys := by
    intro number member
    obtain ⟨index, below, rfl⟩ := List.mem_map.mp member
    exact counted index (List.mem_range.mp below)
  -- The numbers are distinct and as many as the rows, so that no key is left over.
  have all : (numbersBelow rows.length).Perm rows.keys :=
    ((nodup_numbersBelow _).subperm among).perm_of_length_le (by simp)
  rw [← all.mem_iff, mem_numbersBelow]

/-- The keys of ascending rows are the first integers one by one if they are the same set. -/
theorem Ascending.keys_eq_numbersBelow_iff (ascending : rows.Ascending) :
    rows.keys = numbersBelow rows.length ↔
      ∀ key, key ∈ rows.keys ↔ 0 ≤ key ∧ key < rows.length := by
  constructor
  · intro same key
    rw [same, mem_numbersBelow]
  · intro same
    have perm : rows.keys.Perm (numbersBelow rows.length) := by
      rw [List.perm_ext_iff_of_nodup ascending.nodup (nodup_numbersBelow _)]
      intro key
      rw [same, mem_numbersBelow]
    refine perm.eq_of_pairwise (fun first second _ _ before behind => ?_) ascending
      (ascending_numbersBelow rows.length)
    exact absurd before (Int.lt_asymm behind)

end PhotonFerry.Recording.Rows
