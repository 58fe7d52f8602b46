import PhotonFerry.Proofs.Sample.Fields
/-!
# Columns are edited as lists

Whatever is done with a batch, its columns stay those of one list, which each operation
changes as it would change a plain list: it appends, empties, relabels, or puts another list
in the place of the whole. The lists to which operations lead are told without columns; a
message or a row counts for the list that it carries, and for none if it carries none. One
lemma says that an operation on the columns of a list leads to the columns of the next, and
the run of any operations follows.
-/

namespace PhotonFerry

namespace Listing

variable {ε α β : Type}

/-- A listing goes through operations, one after the other. -/
inductive Follows (turns : ε → Listing α → Listing α → Prop) :
    List ε → Listing α → Listing α → Prop where
  | done {listing} : Follows turns [] listing listing
  | next {edit rest before middle after} (turn : turns edit before middle)
      (later : Follows turns rest middle after) : Follows turns (edit :: rest) before after

variable {turns : ε → Listing α → Listing α → Prop}

/-- If each operation can be followed, so can any number of them. -/
theorem exists_follows (total : ∀ edit before, ∃ after, turns edit before after)
    (edits : List ε) (before : Listing α) : ∃ after, Follows turns edits before after := by
  induction edits generalizing before with
  | nil => exact ⟨before, .done⟩
  | cons edit rest step =>
    obtain ⟨middle, turn⟩ := total edit before
    obtain ⟨after, later⟩ := step middle
    exact ⟨after, .next turn later⟩

/-- What stands for a listing goes where the listing goes, if each operation takes it there. -/
theorem Follows.shown {apply : β → ε → β} {shape : Listing α → β}
    (step : ∀ edit before after, turns edit before after →
      apply (shape before) edit = shape after)
    {edits : List ε} {before after : Listing α} (follows : Follows turns edits before after) :
    edits.foldl apply (shape before) = shape after := by
  induction follows with
  | done => rfl
  | next turn later ih => rw [List.foldl_cons, step _ _ _ turn, ih]

end Listing

section Photons

/-- What can be done with a batch of photons. -/
inductive PhotonEdit where
  | setEvent (event : UInt32)
  | push (photon : Photon)
  | add (position direction polarization : Point Float) (wavelength time : Float) (origin : Origin)
  | clear
  /-- Put the photons of a message in the place of all, if it can be read. -/
  | decode (message : Wire.Message)

namespace PhotonEdit

/-- Do this with a batch. -/
def apply (batch : PhotonBatch) : PhotonEdit → PhotonBatch
  | setEvent event => batch.setEvent event
  | push photon => batch.push photon
  | add position direction polarization wavelength time origin =>
    batch.add position direction polarization wavelength time origin
  | clear => batch.clear
  | decode message => (Wire.decodePhotons message).toOption.getD batch

/-- What this does with a list of photons. -/
inductive Turns : PhotonEdit → Listing Photon → Listing Photon → Prop where
  | setEvent {event before} : Turns (.setEvent event) before { before with event }
  | push {photon before} : Turns (.push photon) before (before.append photon)
  | add {position direction polarization wavelength time origin before} :
      Turns (.add position direction polarization wavelength time origin) before (before.append {
        position := position.narrow
        direction := direction.narrow
        polarization := polarization.narrow
        wavelength := Single.narrow wavelength
        time := Single.narrow time
        flags := origin.flagBits })
  | clear {before} : Turns .clear before { event := before.event }
  | decode {message before after} (carried : Wire.CarriesPhotons message after) :
      Turns (.decode message) before after
  | refuse {message before} (other : ∀ listing, ¬ Wire.CarriesPhotons message listing) :
      Turns (.decode message) before before

theorem exists_turns (edit : PhotonEdit) (before : Listing Photon) :
    ∃ after, edit.Turns before after := by
  cases edit with
  | setEvent event => exact ⟨_, .setEvent⟩
  | push photon => exact ⟨_, .push⟩
  | add position direction polarization wavelength time origin => exact ⟨_, .add⟩
  | clear => exact ⟨_, .clear⟩
  | decode message =>
    by_cases carries : ∃ listing, Wire.CarriesPhotons message listing
    · obtain ⟨listing, carried⟩ := carries
      exact ⟨listing, .decode carried⟩
    · exact ⟨before, .refuse (not_exists.mp carries)⟩

/-- The columns of a list become those of the list that follows. -/
theorem Turns.shown (edit : PhotonEdit) (before after : Listing Photon)
    (turns : edit.Turns before after) :
    apply (.ofListing before) edit = .ofListing after := by
  cases turns with
  | setEvent => rfl
  | push => exact PhotonBatch.push_ofListing ..
  | add => exact PhotonBatch.push_ofListing ..
  | clear => rfl
  | decode carried =>
    have read := Wire.decodePhotons_eq_ok_iff.mpr ⟨_, carried, rfl⟩
    simp [apply, read, Except.toOption]
  | @refuse message before other =>
    cases read : Wire.decodePhotons message with
    | error reason => simp [apply, read, Except.toOption]
    | ok batch =>
      obtain ⟨listing, carried, -⟩ := Wire.decodePhotons_eq_ok_iff.mp read
      exact absurd carried (other listing)

end PhotonEdit

/-- What can be seen of a batch of photons is what a list of photons has. -/
structure PhotonBatch.Shows (batch : PhotonBatch) (listing : Listing Photon) : Prop where
  event : batch.event = listing.event
  size : batch.size = listing.samples.length
  /-- No column is shorter than the others or longer. -/
  aligned : batch.Aligned
  /-- In particular there is a photon at each index below the number of photons, and none from
  that number on. -/
  get : ∀ index, batch.get? index = listing.samples[index]?
  list : batch.toList = listing.samples
  /-- The batch can be written: each column frame has as many entries as there are photons. -/
  written : ∀ frame ∈ (Wire.encodePhotons batch).drop 2, frame.size = batch.size * Wire.wordSize

theorem PhotonBatch.shows_ofListing (listing : Listing Photon) :
    (ofListing listing).Shows listing where
  event := rfl
  size := storesLists.size listing
  aligned := storesLists.aligned listing
  get := storesLists.get listing
  list := storesLists.list listing
  written := Wire.size_of_mem_photonFrames (storesLists.aligned listing)

end Photons

section Photoelectrons

/-- What can be done with a batch of photoelectrons. -/
inductive PhotoelectronEdit where
  | setEvent (event : UInt32)
  | push (sample : Photoelectron)
  | clear
  /-- Put whole columns in the place of all. -/
  | fill (columns : PhotoelectronBatch)
  /-- Take a reply for an event, if it is one. -/
  | decode (message : Wire.Message) (expected : UInt32)
  /-- Load an event of a recording, if it can be read. -/
  | load (table : RecordingTable) (event : UInt32)

namespace PhotoelectronBatch

/-- The columns of a list are taken as they are. -/
theorem fill_ofListing (batch : PhotoelectronBatch) (listing : Listing Photoelectron) :
    batch.fill (ofListing listing) = (true, ofListing listing) := by
  rw [fill, if_pos (storesLists.aligned listing)]

/-- Columns of different lengths are not taken at all. -/
theorem fill_ragged {batch columns : PhotoelectronBatch} (ragged : ¬ columns.Aligned) :
    batch.fill columns = (false, batch) := by
  rw [fill, if_neg ragged]

end PhotoelectronBatch

namespace PhotoelectronEdit

/-- Do this with a batch. -/
def apply (batch : PhotoelectronBatch) : PhotoelectronEdit → PhotoelectronBatch
  | setEvent event => batch.setEvent event
  | push sample => batch.push sample
  | clear => batch.clear
  | fill columns => (batch.fill columns).2
  | decode message expected => (Wire.decodeSimReply message expected batch).2
  | load table event => (table.loadEvent event batch).2

/-- What this does with a list of photoelectrons. -/
inductive Turns : PhotoelectronEdit → Listing Photoelectron → Listing Photoelectron → Prop where
  | setEvent {event before} : Turns (.setEvent event) before { before with event }
  | push {sample before} : Turns (.push sample) before (before.append sample)
  | clear {before} : Turns .clear before { event := before.event }
  | fill {columns before after} (whole : columns = .ofListing after) :
      Turns (.fill columns) before after
  | ragged {columns before} (other : ∀ listing, columns ≠ .ofListing listing) :
      Turns (.fill columns) before before
  | decode {message before after} (carried : Wire.CarriesPhotoelectrons message after) :
      Turns (.decode message after.event) before after
  | announce {message expected before} (announced : Wire.Announces message expected) :
      Turns (.decode message expected) before { event := expected }
  | refuse {message expected before}
      (other : ∀ samples, ¬ Wire.CarriesPhotoelectrons message ⟨expected, samples⟩)
      (silent : ¬ Wire.Announces message expected) : Turns (.decode message expected) before before
  | load {table : RecordingTable} {before after} (held : table.Holds after) :
      Turns (.load table after.event) before after
  | miss {table : RecordingTable} {event before}
      (other : ∀ samples, ¬ table.Holds ⟨event, samples⟩) : Turns (.load table event) before before

theorem exists_turns (edit : PhotoelectronEdit) (before : Listing Photoelectron) :
    ∃ after, edit.Turns before after := by
  cases edit with
  | setEvent event => exact ⟨_, .setEvent⟩
  | push sample => exact ⟨_, .push⟩
  | clear => exact ⟨_, .clear⟩
  | fill columns =>
    by_cases whole : ∃ listing, columns = .ofListing listing
    · obtain ⟨listing, whole⟩ := whole
      exact ⟨listing, .fill whole⟩
    · exact ⟨before, .ragged (not_exists.mp whole)⟩
  | decode message expected =>
    by_cases carries : ∃ samples, Wire.CarriesPhotoelectrons message ⟨expected, samples⟩
    · obtain ⟨samples, carried⟩ := carries
      exact ⟨⟨expected, samples⟩, .decode carried⟩
    · by_cases announced : Wire.Announces message expected
      · exact ⟨_, .announce announced⟩
      · exact ⟨before, .refuse (not_exists.mp carries) announced⟩
  | load table event =>
    by_cases holds : ∃ samples, table.Holds ⟨event, samples⟩
    · obtain ⟨samples, held⟩ := holds
      exact ⟨⟨event, samples⟩, .load held⟩
    · exact ⟨before, .miss (not_exists.mp holds)⟩

/-- A reply that neither carries nor announces photoelectrons is refused. -/
theorem decode_refused {message : Wire.Message} {expected : UInt32} {batch : PhotoelectronBatch}
    (other : ∀ samples, ¬ Wire.CarriesPhotoelectrons message ⟨expected, samples⟩)
    (silent : ¬ Wire.Announces message expected) :
    (Wire.decodeSimReply message expected batch).2 = batch := by
  cases read : Wire.readSimReply message expected with
  | error reason => rw [Wire.decodeSimReply, read]
  | ok answer =>
    obtain ⟨reply, taken⟩ := answer
    cases reply with
    | complete =>
      obtain ⟨samples, carried, -⟩ := Wire.readSimReply_carried_iff.mp read
      exact absurd carried (other samples)
    | deferred => exact absurd (Wire.readSimReply_deferred_iff.mp read).1 silent

/-- The columns of a list become those of the list that follows. -/
theorem Turns.shown (edit : PhotoelectronEdit) (before after : Listing Photoelectron)
    (turns : edit.Turns before after) :
    apply (.ofListing before) edit = .ofListing after := by
  cases turns with
  | setEvent => rfl
  | push => exact PhotoelectronBatch.push_ofListing ..
  | clear => rfl
  | fill whole =>
    rw [apply, whole, PhotoelectronBatch.fill_ofListing]
  | ragged other =>
    rw [apply, PhotoelectronBatch.fill_ragged fun aligned =>
      not_exists.mpr other (PhotoelectronBatch.storesLists.aligned_iff.mp aligned)]
  | decode carried =>
    have read := Wire.readSimReply_carried_iff.mpr ⟨_, carried, rfl⟩
    exact congrArg Prod.snd (Wire.decodeSimReply_eq_ok_iff.mpr read)
  | announce announced =>
    have read := Wire.readSimReply_deferred_iff.mpr ⟨announced, rfl⟩
    exact congrArg Prod.snd (Wire.decodeSimReply_eq_ok_iff.mpr read)
  | refuse other silent => exact decode_refused other silent
  | load held =>
    have read := RecordingTable.readEvent_held_iff.mpr ⟨_, held, rfl⟩
    rw [apply, RecordingTable.loadEvent, read]
  | @miss table event before other =>
    cases read : table.readEvent event with
    | error reason => rw [apply, RecordingTable.loadEvent, read]
    | ok batch =>
      obtain ⟨samples, held, -⟩ := RecordingTable.readEvent_held_iff.mp read
      exact absurd held (other samples)

end PhotoelectronEdit

/-- What can be seen of a batch of photoelectrons is what a list of photoelectrons has. -/
structure PhotoelectronBatch.Shows (batch : PhotoelectronBatch)
    (listing : Listing Photoelectron) : Prop where
  event : batch.event = listing.event
  size : batch.size = listing.samples.length
  /-- No column is shorter than the others or longer. -/
  aligned : batch.Aligned
  /-- In particular there is a photoelectron at each index below the number of photoelectrons, and
  none from that number on. -/
  get : ∀ index, batch.get? index = listing.samples[index]?
  list : batch.toList = listing.samples

theorem PhotoelectronBatch.shows_ofListing (listing : Listing Photoelectron) :
    (ofListing listing).Shows listing where
  event := rfl
  size := storesLists.size listing
  aligned := storesLists.aligned listing
  get := storesLists.get listing
  list := storesLists.list listing

end Photoelectrons

/-- Columns are a list, whatever is done with them. Any operations, those that are refused among
them, can be followed on a list; and a batch that went through them shows the list that went
through them. Columns of different lengths are refused, and leave a batch as it was. -/
theorem columns_refine_lists :
    (∀ edits : List PhotonEdit,
      (∃ listing, Listing.Follows PhotonEdit.Turns edits {} listing) ∧
      ∀ listing, Listing.Follows PhotonEdit.Turns edits {} listing →
        (edits.foldl PhotonEdit.apply .empty).Shows listing) ∧
    (∀ edits : List PhotoelectronEdit,
      (∃ listing, Listing.Follows PhotoelectronEdit.Turns edits {} listing) ∧
      ∀ listing, Listing.Follows PhotoelectronEdit.Turns edits {} listing →
        (edits.foldl PhotoelectronEdit.apply .empty).Shows listing) ∧
    ∀ batch columns : PhotoelectronBatch,
      (∃ listing, columns = .ofListing listing ∧
        batch.fill columns = (true, .ofListing listing)) ∨
      ¬ columns.Aligned ∧ batch.fill columns = (false, batch) := by
  refine ⟨fun edits => ⟨?_, fun listing follows => ?_⟩,
    fun edits => ⟨?_, fun listing follows => ?_⟩, fun batch columns => ?_⟩
  · exact Listing.exists_follows PhotonEdit.exists_turns edits {}
  · have shown : edits.foldl PhotonEdit.apply (.ofListing {}) = .ofListing listing :=
      follows.shown PhotonEdit.Turns.shown
    exact shown ▸ PhotonBatch.shows_ofListing listing
  · exact Listing.exists_follows PhotoelectronEdit.exists_turns edits {}
  · have shown : edits.foldl PhotoelectronEdit.apply (.ofListing {}) = .ofListing listing :=
      follows.shown PhotoelectronEdit.Turns.shown
    exact shown ▸ PhotoelectronBatch.shows_ofListing listing
  · by_cases aligned : columns.Aligned
    · obtain ⟨listing, rfl⟩ := PhotoelectronBatch.storesLists.aligned_iff.mp aligned
      exact .inl ⟨listing, rfl, PhotoelectronBatch.fill_ofListing batch listing⟩
    · exact .inr ⟨aligned, PhotoelectronBatch.fill_ragged aligned⟩

end PhotonFerry
