import PhotonFerry.Proofs.Wire.Photons
/-!
# Requests are understood as they were sent

A message is read as a request exactly if its tag is that of a request and what stands
behind the tag is of the form that the tag asks for: a text for the beginning of a run, a
batch for photons, and anything at all for the others, which carry nothing. Each request
is read from its own message. A message with the tag of a reply is none, whatever else it
holds.
-/

namespace PhotonFerry.Wire

variable {message : Message} {request : Request} {tag : Tag}

/-- The tags with which something is asked. -/
def requestTags : List Tag :=
  [.ping, .runBegin, .runEnd, .detectorInfo, .photonData]

/-- The tags with which nothing is asked. -/
def replyTags : List Tag :=
  [.ack, .simComplete, .simCompleteAsync]

/-- A request whose message says all of it: photons travel in columns of one length, and their
number in one word. -/
def Request.Sendable : Request → Prop
  | .photonData photons => photons.Aligned ∧ photons.size < twoTo 32
  | .ping | .runBegin _ | .runEnd | .detectorInfo => True

/-- The frame behind the tag; without one, nothing. -/
def secondFrame (message : Message) : ByteArray :=
  message[1]?.getD .empty

/-- What stands behind the tag makes the request. -/
def Request.Carried (message : Message) : Request → Prop
  | .runBegin fileName => secondFrame message = fileName.toUTF8
  | .photonData photons => decodePhotons message = .ok photons
  | .ping | .runEnd | .detectorInfo => True

/-- A message is read as the request whose tag and payload it holds. -/
theorem decodeRequest_eq_ok_iff :
    decodeRequest message = .ok request ↔
      peekTag message = .ok request.tag ∧ request.Carried message := by
  unfold decodeRequest
  cases peeked : peekTag message with
  | error reason => simp
  | ok tag =>
    cases tag with
    | ping | runEnd | detectorInfo => cases request <;> simp [Request.tag, Request.Carried]
    | ack | simComplete | simCompleteAsync => cases request <;> simp [Request.tag]
    | runBegin =>
      have named : ∀ fileName, Request.Carried message (.runBegin fileName) ↔
          Utf8.decode (secondFrame message) = .ok fileName := fun _ => Utf8.decode_eq_ok_iff.symm
      rw [show message[1]?.getD .empty = secondFrame message from rfl]
      cases read : Utf8.decode (secondFrame message) <;> cases request <;>
        simp [Request.tag, named, read]
    | photonData =>
      cases read : decodePhotons message <;> cases request <;>
        simp [Request.tag, Request.Carried, read]

/-- Each request is read from its own message. -/
theorem decodeRequest_encodeRequest (sendable : request.Sendable) :
    decodeRequest (encodeRequest request) = .ok request := by
  refine decodeRequest_eq_ok_iff.mpr ⟨peekTag_encodeRequest request, ?_⟩
  cases request with
  | ping | runEnd | detectorInfo => exact trivial
  | runBegin fileName => rfl
  | photonData photons => exact decodePhotons_encodePhotons sendable.1 sendable.2

/-- The message asks for something: its tag is that of a request, and a text or photons stand
behind the tag where it announces them. -/
structure Asks (message : Message) (tag : Tag) : Prop where
  tagged : peekTag message = .ok tag
  asking : tag ∈ requestTags
  text : tag = .runBegin → (secondFrame message).IsValidUTF8
  photons : tag = .photonData → ∃ photons, decodePhotons message = .ok photons

/-- A message is read as some request exactly if it asks for something. -/
theorem exists_decodeRequest_iff :
    (∃ request, decodeRequest message = .ok request) ↔ ∃ tag, Asks message tag := by
  simp only [decodeRequest_eq_ok_iff]
  constructor
  · rintro ⟨request, tagged, carried⟩
    refine ⟨request.tag, tagged, ?asking, ?text, ?photons⟩
    case asking => cases request <;> simp [Request.tag, requestTags]
    case text =>
      intro named
      cases request with
      | runBegin fileName =>
        exact Utf8.exists_decode_iff.mp ⟨fileName, Utf8.decode_eq_ok_iff.mpr carried⟩
      | _ => exact nomatch named
    case photons =>
      intro shipped
      cases request with
      | photonData photons => exact ⟨photons, carried⟩
      | _ => exact nomatch shipped
  · rintro ⟨tag, tagged, asking, text, photons⟩
    cases tag with
    | ping => exact ⟨.ping, tagged, trivial⟩
    | runEnd => exact ⟨.runEnd, tagged, trivial⟩
    | detectorInfo => exact ⟨.detectorInfo, tagged, trivial⟩
    | runBegin =>
      obtain ⟨fileName, read⟩ := Utf8.exists_decode_iff.mpr (text rfl)
      exact ⟨.runBegin fileName, tagged, Utf8.decode_eq_ok_iff.mp read⟩
    | photonData =>
      obtain ⟨batch, read⟩ := photons rfl
      exact ⟨.photonData batch, tagged, read⟩
    | ack | simComplete | simCompleteAsync => exact absurd asking (by decide)

/-- A message with the tag of a reply is refused for that tag. -/
theorem decodeRequest_of_reply (tagged : peekTag message = .ok tag) (reply : tag ∈ replyTags) :
    decodeRequest message = .error (.unexpectedTag "request tag" tag.name) := by
  unfold decodeRequest
  rw [tagged]
  cases tag with
  | ack | simComplete | simCompleteAsync => rfl
  | ping | runBegin | runEnd | detectorInfo | photonData => exact absurd reply (by decide)

/-- Each request that can be sent is read from its own message, under its own tag. A message is
read as some request exactly if it has the tag of one, behind which a text stands where a run
begins and photons where they are announced. With the tag of a reply it is refused for its tag,
whatever stands behind it. -/
theorem requests_understood :
    (∀ request : Request, peekTag (encodeRequest request) = .ok request.tag ∧
      (request.Sendable → decodeRequest (encodeRequest request) = .ok request)) ∧
    (∀ message, (∃ request, decodeRequest message = .ok request) ↔ ∃ tag, Asks message tag) ∧
    ∀ tag ∈ replyTags, ∀ behind,
      decodeRequest (tag.frame :: behind) = .error (.unexpectedTag "request tag" tag.name) :=
  ⟨fun request => ⟨peekTag_encodeRequest request, decodeRequest_encodeRequest⟩,
    fun _ => exists_decodeRequest_iff,
    fun _ reply _ => decodeRequest_of_reply (peekTag_eq_ok_iff.mpr ⟨_, rfl⟩) reply⟩

end PhotonFerry.Wire
