import PhotonFerry.Journal
import PhotonFerry.Number.Fixed
import PhotonFerry.Space.Point
/-!
# From backend channels to detector photomultipliers

The backend and the detector describe the same photomultipliers in frames that
may differ by a shift. Both lists are centred on their centroids, and each
backend channel takes the first photomultiplier that lies within a tolerance of
it. Rotated or scaled frames do not match. `ChannelMap.build` is the map over any
scalars; `reconcile` builds it for doubles and reports what it finds.
-/

namespace PhotonFerry

/-- Two detectors of different size. -/
structure CountMismatch where
  backend : Nat
  detector : Nat
  deriving DecidableEq, Repr

/-- The report of the error. -/
def CountMismatch.message (error : CountMismatch) : String :=
  s!"PMT count mismatch: backend reports {error.backend}, detector has {error.detector}"

/-- The photomultiplier of each backend channel, where there is one. -/
structure ChannelMap where
  entries : Array (Option UInt32) := #[]
  deriving DecidableEq, Repr

namespace ChannelMap

/-- The photomultiplier of a channel. -/
def get (map : ChannelMap) (channel : UInt32) : Option UInt32 :=
  (map.entries[channel.toNat]?).join

/-- The number of backend channels. -/
def size (map : ChannelMap) : Nat :=
  map.entries.size

/-- Whether there is no backend channel. -/
def isEmpty (map : ChannelMap) : Bool :=
  map.entries.isEmpty

/-- The number of channels with a photomultiplier. -/
def matched (map : ChannelMap) : Nat :=
  map.entries.toList.countP Option.isSome

/-- The channels without a photomultiplier, in ascending order. -/
def unmatched (map : ChannelMap) : List UInt32 :=
  (map.entries.toList.zipIdx.filter fun (entry, _) => entry.isNone).map fun (_, channel) =>
    UInt32.ofNat channel

section Build

variable {K : Type} [Scalar K]

/-- The shift that takes the backend's centroid to the detector's. -/
def offset (backend detector : List (Point K)) : Point K :=
  match Point.centroid detector, Point.centroid backend with
  | some detectorCentre, some backendCentre => detectorCentre - backendCentre
  | _, _ => Point.zero

/-- The first photomultiplier within the tolerance of a point. -/
def counterpart (detector : List (Point K)) (tolerance : K) (point : Point K) : Option UInt32 :=
  (detector.findIdx? fun candidate => candidate.near point tolerance).map UInt32.ofNat

/-- The map between two detectors of one size. -/
def build (backend detector : List (Point K)) (tolerance : K) :
    Except CountMismatch ChannelMap :=
  if backend.length = detector.length then
    let shift := offset backend detector
    .ok ⟨(backend.map fun point => counterpart detector tolerance (point + shift)).toArray⟩
  else .error ⟨backend.length, detector.length⟩

variable {backend detector : List (Point K)} {tolerance : K} {map : ChannelMap}

/-- A map is built of detectors of one size, by a search for each channel. -/
theorem build_eq_ok_iff :
    build backend detector tolerance = .ok map ↔
      backend.length = detector.length ∧ map.entries.toList = backend.map fun point =>
        counterpart detector tolerance (point + offset backend detector) := by
  unfold build
  by_cases equal : backend.length = detector.length
  · cases map
    simp [equal, ← Array.toList_inj, eq_comm]
  · simp [equal]

/-- A map that was built searches the detector for the shifted place of each channel. -/
theorem get_of_build (built : build backend detector tolerance = .ok map) (channel : UInt32) :
    map.get channel = backend[channel.toNat]?.bind fun point =>
      counterpart detector tolerance (point + offset backend detector) := by
  rw [get, ← Array.getElem?_toList, (build_eq_ok_iff.mp built).2, List.getElem?_map]
  cases backend[channel.toNat]? <;> rfl

end Build

/-- The tolerance of a run, in millimetres. -/
def runTolerance : Float := 1e-2

/-- A point with the given number of places. -/
def pointText (places : Nat) (point : Point Float) : String :=
  s!"({Fixed.text places point.x}, {Fixed.text places point.y}, {Fixed.text places point.z})"

/-- What there is to report of each channel without a photomultiplier. -/
def lonelyRecords (backend : List (Point Float)) (map : ChannelMap) : Journal :=
  (backend.zip map.entries.toList).zipIdx.filterMap fun ((point, entry), channel) =>
    if entry.isSome then none
    else some ⟨.warn, .geometry,
      s!"Backend PMT {channel} at {pointText 3 point} has no detector counterpart"⟩

/-- Build the map between two detectors and report on it. -/
def reconcile {σ : Type} (backend detector : List (Point Float)) (tolerance : Float) :
    Action σ (Except CountMismatch ChannelMap) :=
  match build backend detector tolerance with
  | .error reason => return .error reason
  | .ok map => do
    Action.debug .geometry s!"Geometry offset {pointText 4 (offset backend detector)}"
    Action.report (lonelyRecords backend map)
    Action.info .geometry s!"Matched {map.matched} of {map.size} backend PMTs to the detector"
    return .ok map

/-- Reporting on a map that is built changes nothing about it. -/
theorem reconcile_value {σ : Type} (backend detector : List (Point Float)) (tolerance : Float)
    (state : σ) : (reconcile backend detector tolerance state).value =
      build backend detector tolerance := by
  cases built : build backend detector tolerance with
  | error reason => simp [reconcile, built]
  | ok map => simp [reconcile, built]

end ChannelMap

end PhotonFerry
