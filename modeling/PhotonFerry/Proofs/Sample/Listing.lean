import PhotonFerry.Sample.Photoelectron
import PhotonFerry.Sample.Photon
/-!
# The list behind the columns

A batch stands for a list of samples: each column holds one field of every sample, in the
order of the list. `ofListing` is the batch of a list, so that an operation on columns is
described by saying which list it leads to. A batch whose columns are of one length is the
batch of a list, and of one list only; columns of different lengths are those of no list.
What follows from this is said once for the batches of either kind (`StoresLists`).
-/

namespace PhotonFerry

/-- The samples of one event, in their order. -/
structure Listing (α : Type) where
  event : UInt32 := 0
  samples : List α := []

namespace Listing

variable {α : Type}

/-- One more sample at the end. -/
def append (listing : Listing α) (sample : α) : Listing α :=
  { listing with samples := listing.samples ++ [sample] }

end Listing

section Lists

/-- The entries of a list, asked for one after the other, are the list. -/
theorem filterMap_getElem?_range {α : Type} (samples : List α) :
    (List.range samples.length).filterMap (samples[·]?) = samples := by
  induction samples with
  | nil => rfl
  | cons first rest step =>
    rw [List.length_cons, List.range_succ_eq_map, List.filterMap_cons, List.filterMap_map]
    simpa [Function.comp_def] using step

/-- A column of a known length is the column of its entries. -/
theorem entries_of_size {α : Type} [Inhabited α] {column : Array α} {count : Nat}
    (size : column.size = count) : ((List.range count).map (column[·]!)).toArray = column := by
  subst size
  ext1
  · simp
  · rename_i index before within
    simp [getElem!_pos column index within]

end Lists

/-- Batches of some kind store lists by column: the batch of a list shows this list, and columns
of one length are those of a list. -/
structure StoresLists {α β : Type} (eventOf : β → UInt32) (sizeOf : β → Nat)
    (item? : β → Nat → Option α) (Aligned : β → Prop) (ofListing : Listing α → β) : Prop where
  event : ∀ listing, eventOf (ofListing listing) = listing.event
  size : ∀ listing, sizeOf (ofListing listing) = listing.samples.length
  aligned : ∀ listing, Aligned (ofListing listing)
  get : ∀ listing index, item? (ofListing listing) index = listing.samples[index]?
  whole : ∀ batch, Aligned batch → ∃ samples, batch = ofListing ⟨eventOf batch, samples⟩

namespace StoresLists

variable {α β : Type} {eventOf : β → UInt32} {sizeOf : β → Nat} {item? : β → Nat → Option α}
  {Aligned : β → Prop} {ofListing : Listing α → β}

/-- All that can be got of the batch of a list is the list. -/
theorem list (stores : StoresLists eventOf sizeOf item? Aligned ofListing)
    (listing : Listing α) :
    (List.range (sizeOf (ofListing listing))).filterMap (item? (ofListing listing)) =
      listing.samples := by
  rw [stores.size, funext (stores.get listing)]
  exact filterMap_getElem?_range listing.samples

/-- Which columns are those of a list can be said of their lengths. -/
theorem aligned_iff (stores : StoresLists eventOf sizeOf item? Aligned ofListing) {batch : β} :
    Aligned batch ↔ ∃ listing, batch = ofListing listing := by
  constructor
  · intro aligned
    obtain ⟨samples, same⟩ := stores.whole batch aligned
    exact ⟨_, same⟩
  · rintro ⟨listing, rfl⟩
    exact stores.aligned listing

end StoresLists

namespace PhotonBatch

/-- The batch that stores a list of photons by column. -/
def ofListing (listing : Listing Photon) : PhotonBatch where
  event := listing.event
  x := (listing.samples.map (·.position.x)).toArray
  y := (listing.samples.map (·.position.y)).toArray
  z := (listing.samples.map (·.position.z)).toArray
  dx := (listing.samples.map (·.direction.x)).toArray
  dy := (listing.samples.map (·.direction.y)).toArray
  dz := (listing.samples.map (·.direction.z)).toArray
  polx := (listing.samples.map (·.polarization.x)).toArray
  poly := (listing.samples.map (·.polarization.y)).toArray
  polz := (listing.samples.map (·.polarization.z)).toArray
  wavelength := (listing.samples.map (·.wavelength)).toArray
  time := (listing.samples.map (·.time)).toArray
  flags := (listing.samples.map (·.flags)).toArray

theorem storesLists : StoresLists event size get? Aligned ofListing where
  event _ := rfl
  size listing := by simp [size, ofListing]
  aligned listing := by simp [Aligned, singles, size, ofListing]
  get listing index := by
    simp only [get?, ofListing, List.getElem?_toArray, List.getElem?_map]
    cases listing.samples[index]? <;> rfl
  whole batch aligned := by
    simp only [Aligned, singles, List.forall_mem_cons] at aligned
    obtain ⟨⟨x, y, z, dx, dy, dz, polx, poly, polz, wavelength, time, -⟩, flags⟩ := aligned
    refine ⟨(List.range batch.size).map fun index => {
      position := ⟨batch.x[index]!, batch.y[index]!, batch.z[index]!⟩
      direction := ⟨batch.dx[index]!, batch.dy[index]!, batch.dz[index]!⟩
      polarization := ⟨batch.polx[index]!, batch.poly[index]!, batch.polz[index]!⟩
      wavelength := batch.wavelength[index]!
      time := batch.time[index]!
      flags := batch.flags[index]! }, ?_⟩
    simp only [ofListing, List.map_map, Function.comp_def]
    rw [entries_of_size x, entries_of_size y, entries_of_size z, entries_of_size dx,
      entries_of_size dy, entries_of_size dz, entries_of_size polx, entries_of_size poly,
      entries_of_size polz, entries_of_size wavelength, entries_of_size time,
      entries_of_size flags]

theorem push_ofListing (listing : Listing Photon) (photon : Photon) :
    (ofListing listing).push photon = ofListing (listing.append photon) := by
  simp [push, ofListing, Listing.append]

end PhotonBatch

namespace PhotoelectronBatch

/-- The batch that stores a list of photoelectrons by column. -/
def ofListing (listing : Listing Photoelectron) : PhotoelectronBatch where
  event := listing.event
  channel := (listing.samples.map (·.channel)).toArray
  dx := (listing.samples.map (·.direction.x)).toArray
  dy := (listing.samples.map (·.direction.y)).toArray
  dz := (listing.samples.map (·.direction.z)).toArray
  polx := (listing.samples.map (·.polarization.x)).toArray
  poly := (listing.samples.map (·.polarization.y)).toArray
  polz := (listing.samples.map (·.polarization.z)).toArray
  wavelength := (listing.samples.map (·.wavelength)).toArray
  time := (listing.samples.map (·.time)).toArray
  flags := (listing.samples.map (·.flags)).toArray

theorem storesLists : StoresLists event size get? Aligned ofListing where
  event _ := rfl
  size listing := by simp [size, ofListing]
  aligned listing := by simp [Aligned, singles, size, ofListing]
  get listing index := by
    simp only [get?, ofListing, List.getElem?_toArray, List.getElem?_map]
    cases listing.samples[index]? <;> rfl
  whole batch aligned := by
    simp only [Aligned, singles, List.forall_mem_cons] at aligned
    obtain ⟨⟨dx, dy, dz, polx, poly, polz, wavelength, time, -⟩, flags⟩ := aligned
    have channel : batch.channel.size = batch.size := rfl
    refine ⟨(List.range batch.size).map fun index => {
      channel := batch.channel[index]!
      time := batch.time[index]!
      wavelength := batch.wavelength[index]!
      direction := ⟨batch.dx[index]!, batch.dy[index]!, batch.dz[index]!⟩
      polarization := ⟨batch.polx[index]!, batch.poly[index]!, batch.polz[index]!⟩
      flags := batch.flags[index]! }, ?_⟩
    simp only [ofListing, List.map_map, Function.comp_def]
    rw [entries_of_size channel, entries_of_size dx, entries_of_size dy, entries_of_size dz,
      entries_of_size polx, entries_of_size poly, entries_of_size polz,
      entries_of_size wavelength, entries_of_size time, entries_of_size flags]

@[simp] theorem size_ofListing (listing : Listing Photoelectron) :
    (ofListing listing).size = listing.samples.length :=
  storesLists.size listing

@[simp] theorem toList_ofListing (listing : Listing Photoelectron) :
    (ofListing listing).toList = listing.samples :=
  storesLists.list listing

/-- A batch with columns of one length lists all its photoelectrons. -/
theorem length_toList {batch : PhotoelectronBatch} (aligned : batch.Aligned) :
    batch.toList.length = batch.size := by
  obtain ⟨samples, same⟩ := storesLists.whole batch aligned
  rw [same, toList_ofListing, size_ofListing]

theorem push_ofListing (listing : Listing Photoelectron) (sample : Photoelectron) :
    (ofListing listing).push sample = ofListing (listing.append sample) := by
  simp [push, ofListing, Listing.append]

end PhotoelectronBatch

end PhotonFerry
