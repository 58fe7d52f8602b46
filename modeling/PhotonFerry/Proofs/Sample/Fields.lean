import PhotonFerry.Proofs.Recording.Rows
import PhotonFerry.Proofs.Sample.Listing
import PhotonFerry.Proofs.Wire.Photons
import PhotonFerry.Proofs.Wire.Reply
/-!
# Samples on the wire and in a row

A message and a row hold samples by field: one run of words for each field of a sample,
with that field of every sample in it. The order of the fields is part of the format, and
it is not the same on the wire and in a row. What is read of a message or of a row is the
batch of the list whose fields it holds, and nothing else is read.
-/

namespace PhotonFerry

/-- The fields of a photon as words, in the order in which they travel. -/
def Photon.fields : List (Photon → UInt32) :=
  [(·.position.x.bits), (·.position.y.bits), (·.position.z.bits), (·.direction.x.bits),
    (·.direction.y.bits), (·.direction.z.bits), (·.polarization.x.bits), (·.polarization.y.bits),
    (·.polarization.z.bits), (·.wavelength.bits), (·.time.bits), (·.flags)]

/-- The fields of a photoelectron as words, in the order in which they travel. -/
def Photoelectron.fields : List (Photoelectron → UInt32) :=
  [(·.channel), (·.direction.x.bits), (·.direction.y.bits), (·.direction.z.bits),
    (·.polarization.x.bits), (·.polarization.y.bits), (·.polarization.z.bits),
    (·.wavelength.bits), (·.time.bits), (·.flags)]

/-- The same fields in the order in which they are stored. -/
def Photoelectron.storedFields : List (Photoelectron → UInt32) :=
  [(·.channel), (·.time.bits), (·.wavelength.bits), (·.direction.x.bits), (·.direction.y.bits),
    (·.direction.z.bits), (·.polarization.x.bits), (·.polarization.y.bits),
    (·.polarization.z.bits), (·.flags)]

/-- The words of a list of samples, one run of them for each field. -/
def Listing.runs {α : Type} (listing : Listing α) (fields : List (α → UInt32)) : List ByteArray :=
  fields.map fun field => Wire.packWords (listing.samples.map field)

namespace Wire

variable {message : Message}

/-- A message carries the photons of a listing: behind the whole tag come the event and the
number of photons, and the photons field by field. -/
def CarriesPhotons (message : Message) (listing : Listing Photon) : Prop :=
  listing.samples.length < twoTo 32 ∧
    message = Tag.photonData.frame ::
      packWords [listing.event, .ofNat listing.samples.length] :: listing.runs Photon.fields

/-- A reply carries the photoelectrons of a listing: behind the whole tag and a header for the
event come the photoelectrons field by field, as many as are declared if their number is. -/
def CarriesPhotoelectrons (message : Message) (listing : Listing Photoelectron) : Prop :=
  ∃ declared : Option UInt32, (∀ stated ∈ declared, stated.toNat = listing.samples.length) ∧
    message = Tag.simComplete.frame :: headerFrame listing.event declared ::
      listing.runs Photoelectron.fields

/-- The columns of photons travel as their fields. -/
theorem photonFrames_ofListing (listing : Listing Photon) :
    photonFrames (.ofListing listing) = listing.runs Photon.fields := by
  simp [photonFrames, PhotonBatch.singles, PhotonBatch.ofListing, Listing.runs, Photon.fields,
    columnFrame, Packed.toWord, Function.comp_def]

/-- The columns of photoelectrons travel as their fields. -/
theorem columnFrames_ofListing (listing : Listing Photoelectron) :
    columnFrames (.ofListing listing) = listing.runs Photoelectron.fields := by
  simp [columnFrames, PhotoelectronBatch.singles, PhotoelectronBatch.ofListing, Listing.runs,
    Photoelectron.fields, columnFrame, Packed.toWord, Function.comp_def]

/-- Photons are read exactly from the messages that carry them. -/
theorem decodePhotons_eq_ok_iff {batch : PhotonBatch} :
    decodePhotons message = .ok batch ↔
      ∃ listing, CarriesPhotons message listing ∧ batch = .ofListing listing := by
  constructor
  · intro decoded
    obtain ⟨aligned, bounded, written⟩ := written_of_decodePhotons decoded
    obtain ⟨listing, rfl⟩ := PhotonBatch.storesLists.aligned_iff.mp aligned
    rw [PhotonBatch.storesLists.size] at bounded
    refine ⟨listing, ⟨bounded, ?_⟩, rfl⟩
    rw [written, encodePhotons_eq, photonFrames_ofListing, PhotonBatch.storesLists.size,
      PhotonBatch.storesLists.event]
  · rintro ⟨listing, ⟨bounded, rfl⟩, rfl⟩
    have written := encodePhotons_eq (.ofListing listing)
    rw [photonFrames_ofListing, PhotonBatch.storesLists.size,
      PhotonBatch.storesLists.event] at written
    rw [← PhotonBatch.storesLists.size] at bounded
    rw [← written]
    exact decodePhotons_encodePhotons (PhotonBatch.storesLists.aligned listing) bounded

/-- Photoelectrons are taken exactly from the replies that carry them. -/
theorem readSimReply_carried_iff {event : UInt32} {batch : PhotoelectronBatch} :
    readSimReply message event = .ok (.complete, batch) ↔
      ∃ samples, CarriesPhotoelectrons message ⟨event, samples⟩ ∧
        batch = .ofListing ⟨event, samples⟩ := by
  rw [readSimReply_complete_iff]
  constructor
  · rintro ⟨aligned, rfl, declared, agreed, written⟩
    obtain ⟨samples, same⟩ := PhotoelectronBatch.storesLists.whole _ aligned
    rw [same, PhotoelectronBatch.size_ofListing] at agreed
    rw [same, columnFrames_ofListing] at written
    exact ⟨samples, ⟨declared, agreed, written⟩, same⟩
  · rintro ⟨samples, ⟨declared, agreed, written⟩, rfl⟩
    refine ⟨PhotoelectronBatch.storesLists.aligned _, rfl, declared, ?_, ?_⟩
    · simpa using agreed
    · rw [written, columnFrames_ofListing]

end Wire

namespace RecordingTable

open Recording

/-- A recording holds the photoelectrons of a listing: the row under the event begins with their
number and, field by field, their words. -/
def Holds (table : RecordingTable) (listing : Listing Photoelectron) : Prop :=
  ∃ relation further, table.database.get Schema.events.name = .ok relation ∧
    (∀ name ∈ Schema.countColumn :: Schema.sampleColumns, relation.columns.any (·.name = name)) ∧
    relation.rows.find? listing.event.toNat =
      some (.integer listing.samples.length ::
        (listing.runs Photoelectron.storedFields).map Cell.blob ++ further)

/-- The columns of photoelectrons are stored as their fields. -/
theorem sampleBlobs_ofListing (listing : Listing Photoelectron) :
    sampleBlobs (.ofListing listing) = listing.runs Photoelectron.storedFields := by
  simp [sampleBlobs, PhotoelectronBatch.ofListing, Listing.runs, Photoelectron.storedFields,
    Wire.columnFrame, Wire.Packed.toWord, Function.comp_def]

/-- Photoelectrons are loaded exactly from the rows that hold them. -/
theorem readEvent_held_iff {table : RecordingTable} {event : UInt32} {batch : PhotoelectronBatch} :
    table.readEvent event = .ok batch ↔
      ∃ samples, table.Holds ⟨event, samples⟩ ∧ batch = .ofListing ⟨event, samples⟩ := by
  have cells (listing : Listing Photoelectron) : eventCells (.ofListing listing) =
      .integer listing.samples.length ::
        (listing.runs Photoelectron.storedFields).map Cell.blob := by
    rw [eventCells, sampleBlobs_ofListing, PhotoelectronBatch.size_ofListing]
  rw [readEvent_eq_ok_iff]
  constructor
  · rintro ⟨rfl, aligned, relation, further, found, named, row⟩
    obtain ⟨samples, same⟩ := PhotoelectronBatch.storesLists.whole _ aligned
    refine ⟨samples, ⟨relation, further, found, named, ?_⟩, same⟩
    rw [same, cells] at row
    exact row
  · rintro ⟨samples, ⟨relation, further, found, named, row⟩, rfl⟩
    refine ⟨rfl, PhotoelectronBatch.storesLists.aligned _, relation, further, found, named, ?_⟩
    rw [cells]
    exact row

end RecordingTable

end PhotonFerry
