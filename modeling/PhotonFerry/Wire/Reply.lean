import PhotonFerry.Sample.Photoelectron
import PhotonFerry.Wire.Message
/-!
# Replies to photons

The backend answers an event's photons either with the photoelectrons or with a
notice that it stores them elsewhere. The layout does not identify itself, so a
reply counts only if its tag, its event and the lengths of all its frames fit
the outstanding request. A reply that does not count leaves the receiving batch
as it was.
-/

namespace PhotonFerry.Wire

/-- How an event's photons were answered. -/
inductive SimReply where
  /-- The photoelectrons came with the reply. -/
  | complete
  /-- The backend stores the photoelectrons itself. -/
  | deferred
  deriving DecidableEq, Repr

/-- The number of column frames of a reply with photoelectrons. -/
def photoelectronColumns : Nat := 10

/-- The reply to a liveness check or to a run's beginning or end. -/
def encodeAck : Message := [Tag.ack.frame]

/-- Check that a message is the plain acknowledgement. -/
def expectAck (message : Message) : Except WireError Unit :=
  expectTag message .ack

/-- The reply that carries photoelectrons. -/
def encodeSimComplete (batch : PhotoelectronBatch) : Message :=
  Tag.simComplete.frame
    :: packWords [batch.event]
    :: columnFrame batch.channel
    :: batch.singles.map columnFrame ++ [columnFrame batch.flags]

/-- The reply that announces photoelectrons stored elsewhere. -/
def encodeSimCompleteAsync (event : UInt32) : Message :=
  [Tag.simCompleteAsync.frame, packWords [event]]

/-- The event that a reply names in its second frame, and the number of samples
where that frame declares one too. -/
def replyHeader (message : Message) : Except WireError (UInt32 × Option UInt32) :=
  match message[1]? with
  | none => .error (.incompleteFrame wordSize 0)
  | some frame =>
    match wordAt? frame 0 with
    | none => .error (.incompleteFrame wordSize frame.size)
    | some event =>
      if frame.size = wordSize then .ok (event, none)
      else if frame.size = 2 * wordSize then .ok (event, wordAt? frame wordSize)
      else .error (.incompleteFrame wordSize frame.size)

/-- The photoelectrons in the frames of a reply for `event`. -/
def decodeColumns (message : Message) (event : UInt32) (declared : Option UInt32) :
    Except WireError PhotoelectronBatch :=
  match message with
  | [_, _, channel, dx, dy, dz, polx, poly, polz, wavelength, time, flags] =>
    match entryCount channel 2 with
    | .error reason => .error reason
    | .ok count =>
      if declared.any fun stated => stated.toNat ≠ count then
        .error (.frameLength 2 ((declared.getD 0).toNat * wordSize) channel.size)
      else
        match checkLengths count 3 [dx, dy, dz, polx, poly, polz, wavelength, time, flags] with
        | .error reason => .error reason
        | .ok () =>
          .ok {
            event := event
            channel := columnOf channel
            dx := columnOf dx
            dy := columnOf dy
            dz := columnOf dz
            polx := columnOf polx
            poly := columnOf poly
            polz := columnOf polz
            wavelength := columnOf wavelength
            time := columnOf time
            flags := columnOf flags }
  | _ => .error (.frameCount .simComplete (2 + photoelectronColumns) message.length)

/-- The columns of a reply that is taken are of one length. -/
theorem aligned_of_decodeColumns {message : Message} {event : UInt32} {declared : Option UInt32}
    {batch : PhotoelectronBatch} (decoded : decodeColumns message event declared = .ok batch) :
    batch.Aligned := by
  unfold decodeColumns at decoded
  split at decoded
  · split at decoded
    · simp at decoded
    · rename_i counted
      have length := entryCount_eq_ok_iff.mp counted
      split at decoded
      · simp at decoded
      · split at decoded
        · simp at decoded
        · rename_i checked
          have sizes := checkLengths_eq_ok_iff.mp checked
          simp only [wordSize, List.forall_mem_cons] at sizes length
          simp only [Except.ok.injEq] at decoded
          subst decoded
          simp [PhotoelectronBatch.Aligned, PhotoelectronBatch.singles, PhotoelectronBatch.size,
            size_columnOf, wordSize, sizes, length]
  · simp at decoded

/-- What a message says in reply to the photons of `expected`: how they were
answered and the photoelectrons for the receiving batch. -/
def readSimReply (message : Message) (expected : UInt32) :
    Except WireError (SimReply × PhotoelectronBatch) :=
  match peekTag message with
  | .error reason => .error reason
  | .ok tag =>
    if tag = .simComplete ∨ tag = .simCompleteAsync then
      match replyHeader message with
      | .error reason => .error reason
      | .ok (event, declared) =>
        if event = expected then
          if tag = .simCompleteAsync then .ok (.deferred, { event := event })
          else
            match decodeColumns message event declared with
            | .error reason => .error reason
            | .ok batch => .ok (.complete, batch)
        else .error (.eventMismatch expected event)
    else .error (.unexpectedTag Tag.simComplete.name tag.name)

theorem aligned_of_readSimReply {message : Message} {expected : UInt32}
    {answer : SimReply × PhotoelectronBatch} (read : readSimReply message expected = .ok answer) :
    answer.2.Aligned := by
  unfold readSimReply at read
  split at read
  · simp at read
  · split at read
    · split at read
      · simp at read
      · rename_i event _ _
        split at read
        · split at read
          · simp only [Except.ok.injEq] at read
            subst read
            exact PhotoelectronBatch.aligned_clear (PhotoelectronBatch.empty.setEvent event)
          · split at read
            · simp at read
            · rename_i decoded
              simp only [Except.ok.injEq] at read
              subst read
              exact aligned_of_decodeColumns decoded
        · simp at read
    · simp at read

theorem event_of_decodeColumns {message : Message} {event : UInt32} {declared : Option UInt32}
    {batch : PhotoelectronBatch} (decoded : decodeColumns message event declared = .ok batch) :
    batch.event = event := by
  unfold decodeColumns at decoded
  grind

/-- A reply that counts is one for the expected event; one that announces
photoelectrons stored elsewhere brings none. -/
theorem event_of_readSimReply {message : Message} {expected : UInt32}
    {answer : SimReply × PhotoelectronBatch} (read : readSimReply message expected = .ok answer) :
    answer.2.event = expected ∧ (answer.1 = .deferred → answer.2 = { event := expected }) := by
  unfold readSimReply at read
  grind [event_of_decodeColumns]

/-- Take a reply into a batch. A refused reply leaves the batch as it was. -/
def decodeSimReply (message : Message) (expected : UInt32) (out : PhotoelectronBatch) :
    Except WireError SimReply × PhotoelectronBatch :=
  match readSimReply message expected with
  | .ok (reply, batch) => (.ok reply, batch)
  | .error reason => (.error reason, out)

/-- A batch stays aligned, whatever it is offered. -/
theorem aligned_decodeSimReply {message : Message} {expected : UInt32} {out : PhotoelectronBatch}
    (aligned : out.Aligned) : (decodeSimReply message expected out).2.Aligned := by
  unfold decodeSimReply
  split
  · rename_i read
    exact aligned_of_readSimReply read
  · exact aligned

end PhotonFerry.Wire
