import PhotonFerry.Sample.Photon
import PhotonFerry.Wire.Message
/-!
# Requests

What the client says to the backend. A run begins with the name of its output
file; the photons of an event travel as twelve column frames behind a header
that holds the event and the number of photons.
-/

namespace PhotonFerry.Wire

/-- What a backend can be asked. -/
inductive Request where
  | ping
  | runBegin (fileName : String)
  | runEnd
  | detectorInfo
  | photonData (photons : PhotonBatch)
  deriving DecidableEq, Repr

/-- The number of column frames of a photon message. -/
def photonColumns : Nat := 12

namespace Request

/-- The tag of a request. -/
def tag : Request → Tag
  | ping => .ping
  | runBegin _ => .runBegin
  | runEnd => .runEnd
  | detectorInfo => .detectorInfo
  | photonData _ => .photonData

end Request

/-- The message that carries the photons of one event. The count is the batch's
size modulo the range of a word. -/
def encodePhotons (batch : PhotonBatch) : Message :=
  Tag.photonData.frame
    :: packWords [batch.event, UInt32.ofNat batch.size]
    :: batch.singles.map columnFrame ++ [columnFrame batch.flags]

/-- The message of a request. -/
def encodeRequest : Request → Message
  | .ping => [Tag.ping.frame]
  | .runBegin fileName => [Tag.runBegin.frame, fileName.toUTF8]
  | .runEnd => [Tag.runEnd.frame]
  | .detectorInfo => [Tag.detectorInfo.frame]
  | .photonData photons => encodePhotons photons

/-- The tag of a request begins its message. -/
theorem peekTag_encodeRequest (request : Request) :
    peekTag (encodeRequest request) = .ok request.tag := by
  cases request <;> exact peekTag_eq_ok_iff.mpr ⟨_, rfl⟩

/-- The event and the number of photons in the header of a photon message. -/
def photonHeader (header : ByteArray) : Except WireError (UInt32 × UInt32) :=
  if header.size = 2 * wordSize then
    .ok ((wordAt? header 0).getD 0, (wordAt? header wordSize).getD 0)
  else .error (.incompleteFrame (2 * wordSize) header.size)

/-- The photons of a photon message. -/
def decodePhotons (message : Message) : Except WireError PhotonBatch :=
  match expectTag message .photonData with
  | .error reason => .error reason
  | .ok () =>
    match message with
    | [_, header, x, y, z, dx, dy, dz, polx, poly, polz, wavelength, time, flags] =>
      match photonHeader header with
      | .error reason => .error reason
      | .ok (event, count) =>
        match checkLengths count.toNat 2
            [x, y, z, dx, dy, dz, polx, poly, polz, wavelength, time, flags] with
        | .error reason => .error reason
        | .ok () =>
          .ok {
            event := event
            x := columnOf x
            y := columnOf y
            z := columnOf z
            dx := columnOf dx
            dy := columnOf dy
            dz := columnOf dz
            polx := columnOf polx
            poly := columnOf poly
            polz := columnOf polz
            wavelength := columnOf wavelength
            time := columnOf time
            flags := columnOf flags }
    | _ => .error (.frameCount .photonData (2 + photonColumns) message.length)

/-- The request that a message makes. Replies are no requests. -/
def decodeRequest (message : Message) : Except WireError Request :=
  match peekTag message with
  | .error reason => .error reason
  | .ok .ping => .ok .ping
  | .ok .runEnd => .ok .runEnd
  | .ok .detectorInfo => .ok .detectorInfo
  | .ok .runBegin =>
    match Utf8.decode (message[1]?.getD .empty) with
    | .ok fileName => .ok (.runBegin fileName)
    | .error fault => .error (.decodeError fault.message)
  | .ok .photonData =>
    match decodePhotons message with
    | .ok photons => .ok (.photonData photons)
    | .error reason => .error reason
  | .ok reply => .error (.unexpectedTag "request tag" reply.name)

end PhotonFerry.Wire
