import PhotonFerry.Geometry.ChannelMap
import PhotonFerry.Proofs.Detector.Density
/-!
# Looking up photomultipliers

The photomultiplier with an id stands at the place of that number in a catalog
that was built, and every id that a channel map gives for the positions of a
catalog is the number of a place in it. So a channel that is mapped leads to the
photomultiplier with the mapped id, whatever number a backend names.
-/

namespace PhotonFerry

namespace ChannelMap

/-- Every id that the map gives is below a bound. -/
def Within (map : ChannelMap) (bound : Nat) : Prop :=
  ∀ channel id, map.get channel = some id → id.toNat < bound

theorem within_empty (bound : Nat) : Within {} bound := by
  intro channel id mapped
  simp [get] at mapped

section Build

variable {K : Type} [Scalar K]

/-- The counterpart of a point is one of the candidates. -/
theorem lt_of_counterpart {detector : List (Point K)} {tolerance : K} {point : Point K}
    {id : UInt32} (found : counterpart detector tolerance point = some id) :
    id.toNat < detector.length := by
  obtain ⟨index, first, rfl⟩ := Option.map_eq_some_iff.mp found
  have bound : index < detector.length := (List.findIdx?_eq_some_iff_findIdx_eq.mp first).1
  rw [UInt32.toNat_ofNat']
  exact Nat.lt_of_le_of_lt (Nat.mod_le _ _) bound

/-- A map gives ids of the detector that it was built for. -/
theorem within_build {backend detector : List (Point K)} {tolerance : K} {map : ChannelMap}
    (built : build backend detector tolerance = .ok map) : map.Within detector.length := by
  intro channel id mapped
  rw [get_of_build built, Option.bind_eq_some_iff] at mapped
  obtain ⟨point, -, found⟩ := mapped
  exact lt_of_counterpart found

end Build

/-- Every channel that is mapped leads to the photomultiplier with the mapped id. -/
def LeadsInto (map : ChannelMap) (catalog : Catalog) : Prop :=
  ∀ channel id, map.get channel = some id →
    ∃ target, catalog.find? id = some target ∧ target.id = id

/-- Ids below the size of a catalog that was built are its own. -/
theorem Within.leadsInto {map : ChannelMap} {models : List String}
    {entries : List Photomultiplier} {catalog : Catalog}
    (built : Catalog.build models entries = .ok catalog) (within : map.Within catalog.size) :
    map.LeadsInto catalog := by
  intro channel id mapped
  have bound : id.toNat < catalog.entries.size := within channel id mapped
  have found : catalog.find? id = some catalog.entries[id.toNat] :=
    Array.getElem?_eq_getElem bound
  exact ⟨_, found, Catalog.id_of_find? built found⟩

end ChannelMap

end PhotonFerry
