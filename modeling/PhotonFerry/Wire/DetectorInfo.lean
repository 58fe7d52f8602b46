import PhotonFerry.Space.Point
import PhotonFerry.Wire.Message
/-!
# The detector as the backend sees it

Positions travel as three single-precision columns and are kept in double
precision. The list of types may differ in length from the positions until it is
put on the wire and read back.
-/

namespace PhotonFerry

/-- The photomultipliers of a backend, by channel number. -/
structure DetectorInfo where
  positions : List (Point Double) := []
  types : List UInt32 := []

namespace DetectorInfo

/-- The number of channels. -/
def size (info : DetectorInfo) : Nat :=
  info.positions.length

/-- Whether there is no channel. -/
def isEmpty (info : DetectorInfo) : Bool :=
  info.positions.isEmpty

end DetectorInfo

namespace Wire

/-- The frame of one coordinate of all positions, rounded to single precision. -/
def coordinateFrame (coordinate : Point Double → Double) (positions : List (Point Double)) :
    ByteArray :=
  columnFrame (positions.map fun position => (coordinate position).toSingle).toArray

/-- The reply that describes a detector. -/
def encodeDetectorInfo (info : DetectorInfo) : Message :=
  [Tag.detectorInfo.frame,
    coordinateFrame Point.x info.positions,
    coordinateFrame Point.y info.positions,
    coordinateFrame Point.z info.positions,
    columnFrame info.types.toArray]

/-- Points from three columns of coordinates, as far as all three reach. -/
def pointsOf : List Single → List Single → List Single → List (Point Double)
  | x :: xs, y :: ys, z :: zs => ⟨x.toDouble, y.toDouble, z.toDouble⟩ :: pointsOf xs ys zs
  | _, _, _ => []

/-- The detector that a reply describes. -/
def decodeDetectorInfo (message : Message) : Except WireError DetectorInfo :=
  match expectTag message .detectorInfo with
  | .error reason => .error reason
  | .ok () =>
    match message with
    | [_, xs, ys, zs, types] =>
      match entryCount xs 1 with
      | .error reason => .error reason
      | .ok count =>
        match checkLengths count 1 [xs, ys, zs, types] with
        | .error reason => .error reason
        | .ok () =>
          .ok {
            positions := pointsOf (columnOf xs).toList (columnOf ys).toList (columnOf zs).toList
            types := (columnOf types).toList }
    | _ => .error (.frameCount .detectorInfo 5 message.length)

end Wire

end PhotonFerry
