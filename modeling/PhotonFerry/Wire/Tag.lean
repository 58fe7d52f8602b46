import PhotonFerry.Text.Utf8
/-!
# Message tags

The first frame of every message is a literal tag. Tags are compared whole: one
may be a prefix of another.
-/

namespace PhotonFerry.Wire

/-- The kinds of message. -/
inductive Tag where
  | ping
  | ack
  | runBegin
  | runEnd
  | detectorInfo
  | photonData
  | simComplete
  | simCompleteAsync
  deriving DecidableEq, Repr

namespace Tag

/-- Every tag. -/
def all : List Tag :=
  [ping, ack, runBegin, runEnd, detectorInfo, photonData, simComplete, simCompleteAsync]

/-- The spelling on the wire. -/
def name : Tag → String
  | ping => "PING"
  | ack => "ACK"
  | runBegin => "RUN_BEGIN"
  | runEnd => "RUN_END"
  | detectorInfo => "DETECTOR_INFO"
  | photonData => "PHOTONDATA"
  | simComplete => "SIM_COMPLETE"
  | simCompleteAsync => "SIM_COMPLETE_ASYNC"

/-- The frame that carries the tag. -/
def frame (tag : Tag) : ByteArray :=
  tag.name.toUTF8

/-- The tag whose spelling a frame holds. -/
def ofFrame? (frame : ByteArray) : Option Tag :=
  all.find? fun tag => tag.frame == frame

@[simp] theorem ofFrame?_frame (tag : Tag) : ofFrame? tag.frame = some tag := by
  cases tag <;> rfl

/-- A frame holds a tag exactly when it is that tag's frame, whole. -/
theorem ofFrame?_eq_some_iff {bytes : ByteArray} {tag : Tag} :
    ofFrame? bytes = some tag ↔ bytes = tag.frame := by
  constructor
  · intro found
    unfold ofFrame? at found
    have same : (tag.frame == bytes) = true := by
      simpa using List.find?_some found
    have data : (tag.frame.data == bytes.data) = true := same
    exact ByteArray.ext (eq_of_beq data).symm
  · rintro rfl
    exact ofFrame?_frame tag

end Tag

end PhotonFerry.Wire
