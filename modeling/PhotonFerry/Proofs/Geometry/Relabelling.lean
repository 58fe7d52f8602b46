import Mathlib.Algebra.BigOperators.Group.List.Basic
import Mathlib.Algebra.Order.Field.Basic
import Mathlib.Algebra.Order.Ring.Rat
import Mathlib.Data.List.FinRange
import Mathlib.GroupTheory.Perm.Basic
import Mathlib.Logic.Equiv.Fin.Rotate
import Mathlib.Tactic.FieldSimp
import Mathlib.Tactic.NormNum
import Mathlib.Tactic.Ring
import PhotonFerry.Geometry.ChannelMap
/-!
# Relabelled and shifted detectors are recovered

Where coordinates are exact, the centroid of a detector does not depend on the order of
its photomultipliers and moves with them. So the shift between the two centroids takes a
detector that was relabelled and moved back to where it was, and each channel to the one
photomultiplier that it stands for: the others are not within the tolerance if they are
at least so far apart from each other.
-/

namespace PhotonFerry

/-- Exact arithmetic. A length is compared with a limit by their squares. -/
instance (priority := low) exactScalar {K : Type} [Field K] [LinearOrder K] : Scalar K where
  zero := 0
  reciprocal count := 1 / count
  shorter square limit := decide (square < limit * limit)

variable {K : Type} [Field K] [LinearOrder K]

namespace Point

@[simp] theorem zero_x : (zero : Point K).x = 0 := rfl

@[simp] theorem zero_y : (zero : Point K).y = 0 := rfl

@[simp] theorem zero_z : (zero : Point K).z = 0 := rfl

/-- Points add up in any order. -/
instance : AddCommMonoid (Point K) where
  zero := zero
  add_assoc _ _ _ := by ext <;> exact add_assoc ..
  zero_add _ := by ext <;> exact zero_add _
  add_zero _ := by ext <;> exact add_zero _
  add_comm _ _ := by ext <;> exact add_comm ..
  nsmul count point := point.scale count
  nsmul_zero point := by
    change point.scale ((0 : Nat) : K) = zero
    ext <;> simp
  nsmul_succ count point := by
    change point.scale ((count + 1 : Nat) : K) = point.scale count + point
    ext <;> simp [mul_add]

theorem nsmul_eq (count : Nat) (point : Point K) : count • point = point.scale count :=
  rfl

/-- The sum in list order is the sum in any order. -/
theorem sum_eq (points : List (Point K)) : sum points = points.sum :=
  List.sum_eq_foldl.symm

/-- Points that are all moved move their sum as often. -/
theorem sum_moved (points : List (Point K)) (shift : Point K) :
    (points.map (· + shift)).sum = points.sum + shift.scale points.length := by
  have moves : (points.map fun _ => shift).sum = points.length • shift := by
    rw [List.map_const', List.sum_replicate]
  rw [List.sum_map_add, moves, nsmul_eq, List.map_id']

/-- The centroid does not depend on the order of the points. -/
theorem centroid_of_perm {left right : List (Point K)} (same : left.Perm right) :
    centroid left = centroid right := by
  unfold centroid
  rw [same.isEmpty_eq, same.length_eq, sum_eq, sum_eq, same.sum_eq]

/-- The centroid of points that are all moved is moved as far. -/
theorem centroid_moved [IsStrictOrderedRing K] (points : List (Point K)) (shift : Point K) :
    centroid (points.map (· + shift)) = (centroid points).map (· + shift) := by
  cases points with
  | nil => rfl
  | cons first others =>
    have counted : ((first :: others).length : K) ≠ 0 := Nat.cast_ne_zero.mpr (by simp)
    simp only [centroid, List.isEmpty_map, List.isEmpty_cons, List.length_map, sum_eq, sum_moved]
    refine congrArg some ?_
    -- Each coordinate is `(total + shift * n) * (1 / n)` against `total * (1 / n) + shift`.
    ext <;> simp only [scale_x, scale_y, scale_z, add_x, add_y, add_z, Scalar.reciprocal] <;>
      field_simp

/-- A shift is undone by what the centre lacks to the shifted centre. -/
theorem shift_back (point shift centre : Point K) :
    point + shift + (centre - (centre + shift)) = point := by
  ext <;> simp

@[simp] theorem squaredNorm_sub_self (point : Point K) : (point - point).squaredNorm = 0 := by
  simp [squaredNorm]

end Point

namespace ChannelMap

/-- The photomultipliers in another order, all moved by one shift. -/
def relabelled (detector : List (Point K)) (relabelling : Equiv.Perm (Fin detector.length))
    (shift : Point K) : List (Point K) :=
  List.ofFn fun channel => detector[relabelling channel] + shift

/-- No two photomultipliers are closer together than the tolerance. -/
def Apart (detector : List (Point K)) (tolerance : K) : Prop :=
  detector.Pairwise fun left right => tolerance * tolerance ≤ (left - right).squaredNorm

instance (detector : List (Point K)) (tolerance : K) : Decidable (Apart detector tolerance) :=
  inferInstanceAs (Decidable (List.Pairwise _ _))

variable {detector : List (Point K)} {tolerance : K}

@[simp] theorem length_relabelled (relabelling : Equiv.Perm (Fin detector.length))
    (shift : Point K) : (relabelled detector relabelling shift).length = detector.length :=
  List.length_ofFn

/-- The same photomultipliers, moved, in some order. -/
theorem relabelled_perm (relabelling : Equiv.Perm (Fin detector.length)) (shift : Point K) :
    (relabelled detector relabelling shift).Perm (detector.map (· + shift)) := by
  have reordered := relabelling.ofFn_comp_perm fun channel => detector[channel] + shift
  have inOrder : (List.ofFn fun channel : Fin detector.length => detector[channel] + shift) =
      detector.map (· + shift) := by
    apply List.ext_getElem <;> simp
  rwa [inOrder] at reordered

/-- A photomultiplier that is apart from all before it is its own counterpart. -/
theorem counterpart_self [IsStrictOrderedRing K] (positive : 0 < tolerance)
    (apart : Apart detector tolerance) {index : Nat} (inside : index < detector.length) :
    counterpart detector tolerance detector[index] = some (UInt32.ofNat index) := by
  have found : (detector.findIdx? fun candidate =>
      candidate.near detector[index] tolerance) = some index := by
    rw [List.findIdx?_eq_some_iff_getElem]
    refine ⟨inside, ?_, fun earlier before => ?_⟩
    · simp [Point.near, Scalar.shorter, positive]
    · have far := List.pairwise_iff_getElem.mp apart earlier index (by omega) inside before
      simpa [Point.near, Scalar.shorter] using far
  rw [counterpart, found, Option.map_some]

/-- The shift between the centroids takes every photomultiplier back to its place. -/
theorem offset_relabelled [IsStrictOrderedRing K] (inhabited : detector ≠ [])
    (relabelling : Equiv.Perm (Fin detector.length)) (shift point : Point K) :
    point + shift + offset (relabelled detector relabelling shift) detector = point := by
  obtain ⟨centre, centred⟩ := Point.exists_centroid inhabited
  have moved : Point.centroid (relabelled detector relabelling shift) = some (centre + shift) := by
    rw [Point.centroid_of_perm (relabelled_perm relabelling shift), Point.centroid_moved, centred,
      Option.map_some]
  simp only [offset, centred, moved]
  exact Point.shift_back point shift centre

/-- Every channel is matched with the photomultiplier that it was made from. -/
theorem build_relabelled [IsStrictOrderedRing K] (inhabited : detector ≠ [])
    (positive : 0 < tolerance) (apart : Apart detector tolerance)
    (relabelling : Equiv.Perm (Fin detector.length)) (shift : Point K) :
    build (relabelled detector relabelling shift) detector tolerance =
      .ok ⟨(List.ofFn fun channel =>
        some (UInt32.ofNat (relabelling channel))).toArray⟩ := by
  have entries : (relabelled detector relabelling shift).map (fun point =>
      counterpart detector tolerance
        (point + offset (relabelled detector relabelling shift) detector)) =
      List.ofFn fun channel => some (UInt32.ofNat (relabelling channel)) := by
    rw [relabelled, List.map_ofFn]
    congr 1
    funext channel
    change counterpart detector tolerance (detector[relabelling channel] + shift +
      offset (relabelled detector relabelling shift) detector) = _
    rw [offset_relabelled inhabited]
    exact counterpart_self positive apart _
  simp only [build, length_relabelled, if_true, entries]

/-- Where every channel has a photomultiplier, none is left over. -/
theorem unmatched_eq_nil {map : ChannelMap} (full : ∀ entry ∈ map.entries.toList, entry.isSome) :
    map.unmatched = [] := by
  rw [unmatched, List.map_eq_nil_iff, List.filter_eq_nil_iff]
  intro ⟨entry, channel⟩ listed
  have taken := full entry (List.fst_mem_of_mem_zipIdx listed)
  cases entry <;> simp_all

/-- A detector whose photomultipliers are at least the tolerance apart is recovered from any
relabelling and any shift of it: every channel gets the photomultiplier that it was made
from, all of them are matched and none is left over. -/
theorem recovers_relabelling [IsStrictOrderedRing K] (detector : List (Point K)) (tolerance : K)
    (inhabited : detector ≠ []) (positive : 0 < tolerance) (apart : Apart detector tolerance)
    (relabelling : Equiv.Perm (Fin detector.length)) (shift : Point K) :
    ∃ map, build (relabelled detector relabelling shift) detector tolerance = .ok map ∧
      map.size = detector.length ∧
      (∀ (channel : UInt32) (inside : channel.toNat < detector.length),
        map.get channel = some (UInt32.ofNat (relabelling ⟨channel.toNat, inside⟩))) ∧
      map.matched = detector.length ∧ map.unmatched = [] := by
  refine ⟨_, build_relabelled inhabited positive apart relabelling shift, ?size, ?get, ?matched,
    unmatched_eq_nil ?full⟩
  case size => simp [size]
  case get =>
    intro channel inside
    simp [get, inside]
  case matched =>
    have full := List.countP_eq_length.mpr
      (show ∀ entry ∈ List.ofFn fun channel => some (UInt32.ofNat (relabelling channel)),
        entry.isSome by simp [List.mem_ofFn])
    simpa [matched] using full
  case full => simp [List.mem_ofFn]

/-- A ring of three photomultipliers, ten apart or more. -/
def threeRing : List (Point ℚ) :=
  [⟨10, 0, 0⟩, ⟨0, 10, 0⟩, ⟨-10, 0, 1 / 2⟩]

/-- The ring turned by one channel and moved is recovered. -/
theorem recovers_relabelling_threeRing :
    threeRing ≠ [] ∧ Apart threeRing (1 / 100) ∧
      ∃ map, build (relabelled threeRing (finRotate 3) ⟨5 / 2, -40, 7⟩) threeRing (1 / 100) =
          .ok map ∧
        map.size = 3 ∧
        (∀ (channel : UInt32) (inside : channel.toNat < 3),
          map.get channel = some (UInt32.ofNat (finRotate 3 ⟨channel.toNat, inside⟩))) ∧
        map.matched = 3 ∧ map.unmatched = [] := by
  have inhabited : threeRing ≠ [] := by decide
  have apart : Apart threeRing (1 / 100) := by
    norm_num [Apart, threeRing, Point.squaredNorm]
  exact ⟨inhabited, apart, recovers_relabelling threeRing (1 / 100) inhabited (by norm_num) apart
    (finRotate 3) ⟨5 / 2, -40, 7⟩⟩

end ChannelMap

end PhotonFerry
