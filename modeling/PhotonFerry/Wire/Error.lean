import PhotonFerry.Text.Quoted
import PhotonFerry.Wire.Tag
/-!
# What can be wrong with a message

`WireError` lists the ways in which bytes fail to be a message and a message
fails to be the one that was asked for. An error is *stale* when the message is
sound and only answers another request.
-/

namespace PhotonFerry.Wire

/-- A reason to refuse bytes or a message. -/
inductive WireError where
  /-- An envelope begins with other bytes than it must. -/
  | invalidMagic (found : List UInt8)
  /-- An envelope declares more parts than are allowed. -/
  | tooManyParts (declared limit : Nat)
  /-- An envelope declares more bytes than are allowed. -/
  | messageTooLarge (declared limit : Nat)
  /-- The first frame is no tag. -/
  | unknownTag (text : String)
  /-- The tag belongs to another kind of message. -/
  | unexpectedTag (expected actual : String)
  /-- The message belongs to another event. -/
  | eventMismatch (expected actual : UInt32)
  /-- The tag asks for another number of frames. -/
  | frameCount (tag : Tag) (expected actual : Nat)
  /-- A column frame has the wrong number of bytes. -/
  | frameLength (index expected actual : Nat)
  /-- The message ends early. -/
  | incompleteFrame (expected actual : Nat)
  /-- A payload says nothing. -/
  | decodeError (text : String)
  deriving DecidableEq, Repr

namespace WireError

/-- The report of an error. -/
def message : WireError → String
  | invalidMagic found =>
    "Invalid magic bytes: expected 'PHMP', got ["
      ++ ", ".intercalate (found.map fun byte => toString byte.toNat) ++ "]"
  | tooManyParts declared limit => s!"Too many parts: {declared} (max: {limit})"
  | messageTooLarge declared limit => s!"Message too large: {declared} bytes (max: {limit})"
  | unknownTag text => "Unknown tag: " ++ Text.quote text
  | unexpectedTag expected actual => s!"Unexpected tag: expected {expected}, got {actual}"
  | eventMismatch expected actual =>
    s!"Event id mismatch: expected {expected.toNat}, got {actual.toNat}"
  | frameCount tag expected actual =>
    s!"Wrong frame count for {tag.name}: expected {expected}, got {actual}"
  | frameLength index expected actual =>
    s!"Frame {index} has {actual} bytes, expected {expected}"
  | incompleteFrame expected actual =>
    s!"Incomplete message: expected {expected} bytes, got {actual}"
  | decodeError text => s!"Failed to decode message: {text}"

/-- Sound messages that answer another request. -/
def isStale : WireError → Bool
  | eventMismatch .. => true
  | unexpectedTag .. => true
  | _ => false

end WireError

end PhotonFerry.Wire
