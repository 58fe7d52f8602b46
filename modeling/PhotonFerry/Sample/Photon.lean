import PhotonFerry.Space.Point
import PhotonFerry.Optics.Origin
/-!
# Photons of one event

Photons on their way to the transport backend. A batch stores them by column,
one array per quantity, as they travel; `toList` is the list of photons that the
columns stand for, and `Aligned` says that all columns have one length. Every
operation here keeps a batch aligned.
-/

namespace PhotonFerry

/-- One optical photon: position in mm, wavelength in nm, emission time in ns. -/
structure Photon where
  position : Point Single
  direction : Point Single
  polarization : Point Single
  wavelength : Single
  time : Single
  flags : UInt32
  deriving DecidableEq, Repr

/-- The photons of one event, by column. -/
structure PhotonBatch where
  event : UInt32 := 0
  x : Array Single := #[]
  y : Array Single := #[]
  z : Array Single := #[]
  dx : Array Single := #[]
  dy : Array Single := #[]
  dz : Array Single := #[]
  polx : Array Single := #[]
  poly : Array Single := #[]
  polz : Array Single := #[]
  wavelength : Array Single := #[]
  time : Array Single := #[]
  flags : Array UInt32 := #[]
  deriving DecidableEq, Repr

namespace PhotonBatch

/-- No photons, for event 0. -/
def empty : PhotonBatch := {}

instance : Inhabited PhotonBatch := ⟨empty⟩

/-- The number of photons. -/
def size (batch : PhotonBatch) : Nat :=
  batch.x.size

/-- Whether there is no photon. -/
def isEmpty (batch : PhotonBatch) : Bool :=
  batch.x.isEmpty

/-- The single-precision columns in the order in which they travel. -/
def singles (batch : PhotonBatch) : List (Array Single) :=
  [batch.x, batch.y, batch.z, batch.dx, batch.dy, batch.dz, batch.polx, batch.poly,
    batch.polz, batch.wavelength, batch.time]

/-- All columns have as many entries as there are photons. -/
def Aligned (batch : PhotonBatch) : Prop :=
  (∀ column ∈ batch.singles, column.size = batch.size) ∧ batch.flags.size = batch.size

instance (batch : PhotonBatch) : Decidable batch.Aligned := by
  unfold Aligned; infer_instance

/-- The same photons under another event. -/
def setEvent (batch : PhotonBatch) (event : UInt32) : PhotonBatch :=
  { batch with event }

/-- One more photon at the end. -/
def push (batch : PhotonBatch) (photon : Photon) : PhotonBatch where
  event := batch.event
  x := batch.x.push photon.position.x
  y := batch.y.push photon.position.y
  z := batch.z.push photon.position.z
  dx := batch.dx.push photon.direction.x
  dy := batch.dy.push photon.direction.y
  dz := batch.dz.push photon.direction.z
  polx := batch.polx.push photon.polarization.x
  poly := batch.poly.push photon.polarization.y
  polz := batch.polz.push photon.polarization.z
  wavelength := batch.wavelength.push photon.wavelength
  time := batch.time.push photon.time
  flags := batch.flags.push photon.flags

/-- One more photon, as a physics engine reports it in double precision. -/
def add (batch : PhotonBatch) (position direction polarization : Point Float)
    (wavelength time : Float) (origin : Origin) : PhotonBatch :=
  batch.push {
    position := position.narrow
    direction := direction.narrow
    polarization := polarization.narrow
    wavelength := Single.narrow wavelength
    time := Single.narrow time
    flags := origin.flagBits }

/-- The photon at an index; none from the number of photons on. -/
def get? (batch : PhotonBatch) (index : Nat) : Option Photon := do
  let x ← batch.x[index]?
  let y ← batch.y[index]?
  let z ← batch.z[index]?
  let dx ← batch.dx[index]?
  let dy ← batch.dy[index]?
  let dz ← batch.dz[index]?
  let polx ← batch.polx[index]?
  let poly ← batch.poly[index]?
  let polz ← batch.polz[index]?
  let wavelength ← batch.wavelength[index]?
  let time ← batch.time[index]?
  let flags ← batch.flags[index]?
  some ⟨⟨x, y, z⟩, ⟨dx, dy, dz⟩, ⟨polx, poly, polz⟩, wavelength, time, flags⟩

/-- The photons in the order in which they were added. -/
def toList (batch : PhotonBatch) : List Photon :=
  (List.range batch.size).filterMap batch.get?

/-- Drop every photon and keep the event. -/
def clear (batch : PhotonBatch) : PhotonBatch :=
  { event := batch.event }

/-- The number of payload bytes on the wire, tags and envelope apart. -/
def wireSize (batch : PhotonBatch) : Nat :=
  8 + batch.size * 48

end PhotonBatch

end PhotonFerry
