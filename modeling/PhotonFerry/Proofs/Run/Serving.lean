import PhotonFerry.Backend.Basic
import PhotonFerry.Proofs.Client.Delivery
import PhotonFerry.Proofs.Recording.Events
/-!
# Serving events

A backend serves events when it answers the photons of each in turn with its batch,
complete and whatever the receiver holds. A reader of a recording does so for the
batches that were stored, and a client that is ready for those that its peer
delivers, in spite of columns that are stored in one order and sent in another.
-/

namespace PhotonFerry

/-- The batches are for consecutive events from a number on. -/
def NumberedFrom (number : Nat) (batches : List PhotoelectronBatch) : Prop :=
  batches.map (·.event.toNat) = List.range' number batches.length

section Numbers

variable {number : Nat} {batch : PhotoelectronBatch} {batches : List PhotoelectronBatch}

theorem NumberedFrom.of_cons (numbered : NumberedFrom number (batch :: batches)) :
    batch.event = .ofNat number ∧ NumberedFrom (number + 1) batches := by
  rw [NumberedFrom, List.map_cons, List.length_cons, List.range'_succ, List.cons.injEq] at numbered
  obtain ⟨rfl, later⟩ := numbered
  exact ⟨UInt32.ofNat_toNat.symm, later⟩

/-- Consecutive events are different. -/
theorem NumberedFrom.nodup (numbered : NumberedFrom number batches) :
    (batches.map PhotoelectronBatch.event).Nodup := by
  have numbers : ((batches.map PhotoelectronBatch.event).map UInt32.toNat).Nodup := by
    rw [List.map_map]
    exact numbered ▸ List.nodup_range'
  exact List.Pairwise.of_map _ (fun _ _ differ same => differ (congrArg _ same)) numbers

end Numbers

/-- Asked for events one after the other, from a number on, the backend answers the
photons of each with its batch. -/
inductive Serves {β : Type} [Backend β] :
    (number : Nat) → β → List PhotonBatch → List PhotoelectronBatch → Prop where
  | done {number backend} : Serves number backend [] []
  | next {number backend photons batch rest batches} (own : batch.event = .ofNat number)
      (answers : ∀ out, (Backend.propagate (photons.setEvent (.ofNat number)) out backend).value =
        (.ok .complete, batch))
      (later : ∀ out, Serves (number + 1)
        (Backend.propagate (photons.setEvent (.ofNat number)) out backend).state rest batches) :
      Serves number backend (photons :: rest) (batch :: batches)

namespace RecordingReader

/-- The event that is next is delivered, and the one behind it is next then. -/
theorem propagate_next {reader : RecordingReader} {photons : PhotonBatch}
    {batch : PhotoelectronBatch} (next : reader.nextEvent = photons.event)
    (recorded : reader.table.readEvent photons.event = .ok batch) (out : PhotoelectronBatch) :
    (Backend.propagate photons out reader).value = (.ok .complete, batch) ∧
      (Backend.propagate photons out reader).state =
        { reader with nextEvent := photons.event + 1 } := by
  have loaded : reader.table.loadEvent photons.event out = (.ok (), batch) := by
    rw [RecordingTable.loadEvent, recorded]
  simp only [Backend.propagate, propagate, readRequested, readNext, Action.bind_value,
    Action.bind_state, Action.get_bind, next, if_true, loaded]
  exact ⟨rfl, rfl⟩

/-- A reader serves the batches that its recording gives back. -/
theorem serves {number : Nat} {reader : RecordingReader} {photons : List PhotonBatch}
    {batches : List PhotoelectronBatch} (numbered : NumberedFrom number batches)
    (next : reader.nextEvent = .ofNat number)
    (recorded : ∀ batch ∈ batches, reader.table.readEvent batch.event = .ok batch)
    (paired : photons.length = batches.length) : Serves number reader photons batches := by
  induction batches generalizing number reader photons with
  | nil =>
    rw [List.eq_nil_of_length_eq_zero paired]
    exact .done
  | cons batch batches step =>
    cases photons with
    | nil => simp at paired
    | cons photons rest =>
      obtain ⟨own, numbered⟩ := numbered.of_cons
      rw [List.forall_mem_cons, own] at recorded
      have delivered (out : PhotoelectronBatch) :
          (Backend.propagate (photons.setEvent (.ofNat number)) out reader).value = _ ∧
            (Backend.propagate (photons.setEvent (.ofNat number)) out reader).state = _ :=
        propagate_next next recorded.1 out
      refine .next own (fun out => (delivered out).1) fun out => ?_
      rw [(delivered out).2]
      refine step numbered ?_ recorded.2 (by simpa using paired)
      exact (UInt32.ofNat_add number 1).symm

end RecordingReader

/-- What it takes for the backends of some sessions to do what a client does in them:
wherever the exchange for some photons comes to an end, the backend answers what the
client hands out, and is then the backend of the session that is left. -/
structure ActsFor {σ β : Type} [Backend β] (caller : Caller σ) (backendOf : Session σ → β) :
    Prop where
  propagate : ∀ {session photons out handed begun calls after},
    Performs caller session (.propagate photons out) ⟨.propagated handed, begun, calls, after⟩ →
    (Backend.propagate photons out (backendOf session)).value = (.ok handed.1, handed.2) ∧
      (Backend.propagate photons out (backendOf session)).state = backendOf after

/-- A live backend acts for its client. -/
theorem LiveBackend.actsFor {σ : Type} (client : Client σ) :
    ActsFor client.caller (LiveBackend.mk client) where
  propagate := by
    intro session photons out handed begun calls after performed
    obtain ⟨unwatched, _, done⟩ := client.performs (.propagate photons out) session
    have same := done.propagate_unique performed
    simp only [Performance.mk.injEq] at same
    obtain ⟨value, -, -, state⟩ := same
    have handedOut : (client.propagate photons out session).value = handed :=
      Answer.propagated.inj ((congrArg Traced.value unwatched).symm.trans value)
    have left : (client.propagate photons out session).state = after :=
      (congrArg Traced.state unwatched).symm.trans state
    subst handedOut left
    exact ⟨rfl, rfl⟩

/-- The photons of events, from a number on, are answered with their batches. -/
inductive Caller.DeliversFrom {σ : Type} (caller : Caller σ) :
    (number : Nat) → List PhotonBatch → List PhotoelectronBatch → (held : Bool) → σ → Prop where
  | done {number held world} : DeliversFrom caller number [] [] held world
  | next {number photons batch rest batches held world after}
      (delivered : caller.Delivered (photons.setEvent (.ofNat number)) batch held world after)
      (later : DeliversFrom caller (number + 1) rest batches true after) :
      DeliversFrom caller number (photons :: rest) (batch :: batches) held world

/-- There is a batch for the photons of each event. -/
theorem Caller.DeliversFrom.paired {σ : Type} {caller : Caller σ} {number : Nat}
    {photons : List PhotonBatch} {batches : List PhotoelectronBatch} {held : Bool} {world : σ}
    (delivers : caller.DeliversFrom number photons batches held world) :
    photons.length = batches.length := by
  induction delivers with
  | done => rfl
  | next delivered later step => rw [List.length_cons, List.length_cons, step]

/-- The backend of a session that is ready serves the batches that are delivered. -/
theorem ActsFor.serves {σ β : Type} [Backend β] {caller : Caller σ} {backendOf : Session σ → β}
    (acting : ActsFor caller backendOf) {number : Nat} {session : Session σ}
    {photons : List PhotonBatch} {batches : List PhotoelectronBatch}
    (numbered : NumberedFrom number batches) (aligned : ∀ batch ∈ batches, batch.Aligned)
    (ready : session.phase = .ready)
    (delivers : caller.DeliversFrom number photons batches session.connected session.world) :
    Serves number (backendOf session) photons batches := by
  generalize held : session.connected = connected at delivers
  generalize here : session.world = world at delivers
  induction delivers generalizing session with
  | done => exact .done
  | next delivered later step =>
    subst held here
    obtain ⟨own, numbered⟩ := numbered.of_cons
    rw [List.forall_mem_cons] at aligned
    have answered (out : PhotoelectronBatch) :=
      (Caller.exists_performs ready aligned.1 own delivered out)
    refine .next own (fun out => ?_) fun out => ?_
    · obtain ⟨calls, left, performed, -⟩ := answered out
      exact (acting.propagate performed).1
    · obtain ⟨calls, left, performed, stays, connected, there⟩ := answered out
      rw [(acting.propagate performed).2]
      exact step numbered aligned.2 stays connected there

end PhotonFerry
