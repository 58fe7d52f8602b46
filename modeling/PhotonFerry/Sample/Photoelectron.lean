import PhotonFerry.Space.Point
/-!
# Photoelectrons of one event

What the backend reports back. As with photons a batch is stored by column, here
in the order in which the columns travel behind the channel numbers; `toList` is
the list of photoelectrons that the columns stand for.
-/

namespace PhotonFerry

/-- One detected photon: arrival time in ns, wavelength in nm, and the channel
of the backend that detected it. -/
structure Photoelectron where
  channel : UInt32
  time : Single
  wavelength : Single
  direction : Point Single
  polarization : Point Single
  flags : UInt32
  deriving DecidableEq, Repr

/-- The photoelectrons of one event, by column. -/
structure PhotoelectronBatch where
  event : UInt32 := 0
  channel : Array UInt32 := #[]
  dx : Array Single := #[]
  dy : Array Single := #[]
  dz : Array Single := #[]
  polx : Array Single := #[]
  poly : Array Single := #[]
  polz : Array Single := #[]
  wavelength : Array Single := #[]
  time : Array Single := #[]
  flags : Array UInt32 := #[]
  deriving DecidableEq, Repr

namespace PhotoelectronBatch

/-- No photoelectrons, for event 0. -/
def empty : PhotoelectronBatch := {}

instance : Inhabited PhotoelectronBatch := ⟨empty⟩

/-- The number of photoelectrons. -/
def size (batch : PhotoelectronBatch) : Nat :=
  batch.channel.size

/-- Whether there is no photoelectron. -/
def isEmpty (batch : PhotoelectronBatch) : Bool :=
  batch.channel.isEmpty

/-- The single-precision columns in the order in which they travel. -/
def singles (batch : PhotoelectronBatch) : List (Array Single) :=
  [batch.dx, batch.dy, batch.dz, batch.polx, batch.poly, batch.polz, batch.wavelength,
    batch.time]

/-- All columns have as many entries as there are channel numbers. -/
def Aligned (batch : PhotoelectronBatch) : Prop :=
  (∀ column ∈ batch.singles, column.size = batch.size) ∧ batch.flags.size = batch.size

instance (batch : PhotoelectronBatch) : Decidable batch.Aligned := by
  unfold Aligned; infer_instance

/-- The same photoelectrons under another event. -/
def setEvent (batch : PhotoelectronBatch) (event : UInt32) : PhotoelectronBatch :=
  { batch with event }

/-- One more photoelectron at the end. -/
def push (batch : PhotoelectronBatch) (sample : Photoelectron) : PhotoelectronBatch where
  event := batch.event
  channel := batch.channel.push sample.channel
  dx := batch.dx.push sample.direction.x
  dy := batch.dy.push sample.direction.y
  dz := batch.dz.push sample.direction.z
  polx := batch.polx.push sample.polarization.x
  poly := batch.poly.push sample.polarization.y
  polz := batch.polz.push sample.polarization.z
  wavelength := batch.wavelength.push sample.wavelength
  time := batch.time.push sample.time
  flags := batch.flags.push sample.flags

/-- The photoelectron at an index; none from the number of photoelectrons on. -/
def get? (batch : PhotoelectronBatch) (index : Nat) : Option Photoelectron := do
  let channel ← batch.channel[index]?
  let dx ← batch.dx[index]?
  let dy ← batch.dy[index]?
  let dz ← batch.dz[index]?
  let polx ← batch.polx[index]?
  let poly ← batch.poly[index]?
  let polz ← batch.polz[index]?
  let wavelength ← batch.wavelength[index]?
  let time ← batch.time[index]?
  let flags ← batch.flags[index]?
  some ⟨channel, time, wavelength, ⟨dx, dy, dz⟩, ⟨polx, poly, polz⟩, flags⟩

/-- The photoelectrons in the order in which the backend reported them. -/
def toList (batch : PhotoelectronBatch) : List Photoelectron :=
  (List.range batch.size).filterMap batch.get?

/-- Drop every photoelectron and keep the event. -/
def clear (batch : PhotoelectronBatch) : PhotoelectronBatch :=
  { event := batch.event }

@[simp] theorem aligned_empty : empty.Aligned := by decide

@[simp] theorem aligned_clear (batch : PhotoelectronBatch) : batch.clear.Aligned := by
  simp [clear, Aligned, singles, size]

@[simp] theorem aligned_setEvent {batch : PhotoelectronBatch} {event : UInt32} :
    (batch.setEvent event).Aligned ↔ batch.Aligned := Iff.rfl

theorem aligned_push {batch : PhotoelectronBatch} (aligned : batch.Aligned)
    (sample : Photoelectron) : (batch.push sample).Aligned := by
  simpa [push, Aligned, singles, size] using aligned

/-- Replace the contents by whole columns, and say whether that was done.
Columns of different lengths stand for no list of photoelectrons; they are
refused and leave the batch as it was. -/
def fill (batch columns : PhotoelectronBatch) : Bool × PhotoelectronBatch :=
  if columns.Aligned then (true, columns) else (false, batch)

end PhotoelectronBatch

end PhotonFerry
