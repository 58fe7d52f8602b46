import PhotonFerry.Proofs.Number.Rounding
import PhotonFerry.Proofs.Wire.Columns
import PhotonFerry.Proofs.Wire.DetectorInfo
/-!
# What a description says

A description of the detector is four columns side by side: point number `i` stands in the
three entries number `i` of the first three, its type in that of the last. Points are in
double precision and travel in single precision, so writing what was read gives the same
bytes back exactly if rounding undoes widening of each coordinate, which it does unless the
coordinate is a signalling pattern; and reading what was written gives the points rounded.
The lengths of points and types need not agree before they are written, but what is read
has them agree.
-/

namespace PhotonFerry

/-- The double next to it in single precision. -/
def Double.rounded (double : Double) : Double :=
  double.toSingle.toDouble

/-- The same detector with every coordinate rounded to single precision. -/
def DetectorInfo.rounded (info : DetectorInfo) : DetectorInfo :=
  { info with positions := info.positions.map (Point.map Double.rounded) }

namespace Wire

/-! ## Points and columns -/

section Points

variable {xs ys zs : List Single}

/-- A point is made of the entries at its index. -/
theorem getElem?_pointsOf_eq_some_iff {index : Nat} {point : Point Double} :
    (pointsOf xs ys zs)[index]? = some point ↔
      ∃ x y z, xs[index]? = some x ∧ ys[index]? = some y ∧ zs[index]? = some z ∧
        point = ⟨x.toDouble, y.toDouble, z.toDouble⟩ := by
  fun_induction pointsOf xs ys zs generalizing index with
  | case1 x xs y ys z zs step =>
    cases index with
    | zero => simp [eq_comm]
    | succ index => simpa using step
  | case2 xs ys zs short =>
    refine iff_of_false (by simp) ?_
    rintro ⟨x, y, z, foundX, foundY, foundZ, -⟩
    -- Three entries at one index leave no column empty.
    match xs, ys, zs, short, foundX, foundY, foundZ with
    | x :: xs, y :: ys, z :: zs, short, _, _, _ => exact short x xs y ys z zs rfl rfl rfl

/-- The columns of the points are the columns that they were made of, widened. -/
theorem coordinates_pointsOf (sameY : ys.length = xs.length) (sameZ : zs.length = xs.length) :
    (pointsOf xs ys zs).map Point.x = xs.map Single.toDouble ∧
      (pointsOf xs ys zs).map Point.y = ys.map Single.toDouble ∧
      (pointsOf xs ys zs).map Point.z = zs.map Single.toDouble := by
  induction xs generalizing ys zs with
  | nil =>
    obtain rfl := List.eq_nil_of_length_eq_zero sameY
    obtain rfl := List.eq_nil_of_length_eq_zero sameZ
    simp [pointsOf]
  | cons x xs step =>
    match ys, zs, sameY, sameZ with
    | y :: ys, z :: zs, sameY, sameZ =>
      have later := step (Nat.succ.inj sameY) (Nat.succ.inj sameZ)
      simpa [pointsOf] using later

/-- Columns of one length make as many points. -/
theorem length_pointsOf (sameY : ys.length = xs.length) (sameZ : zs.length = xs.length) :
    (pointsOf xs ys zs).length = xs.length := by
  simpa using congrArg List.length (coordinates_pointsOf sameY sameZ).1

/-- Points come back rounded from their three columns. -/
theorem pointsOf_toSingle (positions : List (Point Double)) :
    pointsOf (positions.map fun position => position.x.toSingle)
        (positions.map fun position => position.y.toSingle)
        (positions.map fun position => position.z.toSingle) =
      positions.map (Point.map Double.rounded) := by
  induction positions with
  | nil => rfl
  | cons position rest step =>
    simp only [List.map_cons, pointsOf, step]
    rfl

end Points

/-! ## Entries of a message -/

/-- The word at an index of a frame that is made of words. -/
def word? (message : Message) (frame index : Nat) : Option UInt32 :=
  message[frame]?.bind fun bytes => wordAt? bytes (index * wordSize)

/-- The coordinate at an index of a frame. -/
def coordinate? (message : Message) (frame index : Nat) : Option Single :=
  (word? message frame index).map Single.mk

/-- The message says all of the detector: each of its points and types, and no more. -/
structure Depicts (message : Message) (info : DetectorInfo) : Prop where
  same_length : info.positions.length = info.types.length
  position : ∀ index point, info.positions[index]? = some point ↔
    ∃ x y z, coordinate? message 1 index = some x ∧ coordinate? message 2 index = some y ∧
      coordinate? message 3 index = some z ∧
      point = ⟨x.toDouble, y.toDouble, z.toDouble⟩
  type : ∀ index, info.types[index]? = word? message 4 index

/-- Rounding undoes widening of every coordinate of the message. -/
def RoundsBack (message : Message) : Prop :=
  ∀ frame ∈ [1, 2, 3], ∀ index value, coordinate? message frame index = some value →
    value.toDouble.toSingle = value

/-- No coordinate of the message is a signalling pattern. -/
def IsQuiet (message : Message) : Prop :=
  ∀ frame ∈ [1, 2, 3], ∀ index value, coordinate? message frame index = some value →
    ¬value.IsSignalling

/-- Just the signalling patterns do not come back. -/
theorem roundsBack_iff {message : Message} : RoundsBack message ↔ IsQuiet message := by
  simp only [RoundsBack, IsQuiet, Single.toSingle_toDouble_iff]

section Frames

variable {message : Message} {bytes : ByteArray} {frame count : Nat}

/-- The entries of a frame are those of its column. -/
theorem word?_eq (found : message[frame]? = some bytes) (size : bytes.size = count * wordSize)
    (index : Nat) : word? message frame index = (columnOf bytes : Array UInt32)[index]? := by
  rw [word?, found, Option.bind_some, wordAt?_eq_getElem?_columnOf (α := UInt32) size]
  exact Option.map_id' ..

/-- The coordinates of a frame are those of its column. -/
theorem coordinate?_eq (found : message[frame]? = some bytes)
    (size : bytes.size = count * wordSize) (index : Nat) :
    coordinate? message frame index = (columnOf bytes : Array Single)[index]? := by
  rw [coordinate?, word?, found, Option.bind_some,
    wordAt?_eq_getElem?_columnOf (α := Single) size, Option.map_map]
  exact Option.map_id' ..

/-- Frames of one length have columns of one length. -/
theorem length_toList_columnOf {α β : Type} [Packed α] [Packed β] {first second : ByteArray}
    (firstSize : first.size = count * wordSize) (secondSize : second.size = count * wordSize) :
    (columnOf first : Array α).toList.length = (columnOf second : Array β).toList.length := by
  simp only [Array.length_toList, size_columnOf, firstSize, secondSize]

/-- The frame of a coordinate, by its column of doubles. -/
theorem coordinateFrame_eq (coordinate : Point Double → Double)
    (positions : List (Point Double)) : coordinateFrame coordinate positions =
      columnFrame ((positions.map coordinate).map Double.toSingle).toArray := by
  rw [coordinateFrame, List.map_map]
  rfl

/-- A column of widened coordinates is written as it was exactly if they all come back. -/
theorem columnFrame_toSingle_iff (size : bytes.size = count * wordSize) :
    columnFrame (((columnOf bytes).toList.map Single.toDouble).map Double.toSingle).toArray =
        bytes ↔
      ∀ (index : Nat) (value : Single), (columnOf bytes)[index]? = some value →
        value.toDouble.toSingle = value := by
  rw [columnFrame_eq_iff size, ← Array.toList_inj, List.map_map, List.map_eq_iff]
  refine forall_congr' fun index => ?_
  rw [Array.getElem?_toList]
  cases (columnOf bytes : Array Single)[index]? <;> simp [eq_comm]

end Frames

section Codec

variable {message : Message} {info : DetectorInfo}

/-- What is read off a message is what the message says. -/
theorem depicts_of_decode (decoded : decodeDetectorInfo message = .ok info) :
    Depicts message info := by
  obtain ⟨xs, ys, zs, types, count, rfl, sizes, rfl⟩ := decodeDetectorInfo_eq_ok_iff.mp decoded
  simp only [List.forall_mem_cons] at sizes
  obtain ⟨sizeX, sizeY, sizeZ, sizeTypes, -⟩ := sizes
  refine {
    same_length := ?lengths
    position := fun index point => ?position
    type := fun index => ?type }
  case lengths =>
    rw [length_pointsOf (length_toList_columnOf sizeY sizeX) (length_toList_columnOf sizeZ sizeX)]
    exact length_toList_columnOf sizeX sizeTypes
  case position =>
    rw [coordinate?_eq rfl sizeX, coordinate?_eq rfl sizeY, coordinate?_eq rfl sizeZ,
      getElem?_pointsOf_eq_some_iff]
    simp only [Array.getElem?_toList]
  case type =>
    rw [word?_eq rfl sizeTypes, Array.getElem?_toList]

/-- What is read off a message is written as it was exactly if rounding undoes widening of its
coordinates. -/
theorem encode_of_decode_iff (decoded : decodeDetectorInfo message = .ok info) :
    encodeDetectorInfo info = message ↔ RoundsBack message := by
  obtain ⟨xs, ys, zs, types, count, rfl, sizes, rfl⟩ := decodeDetectorInfo_eq_ok_iff.mp decoded
  simp only [List.forall_mem_cons] at sizes
  obtain ⟨sizeX, sizeY, sizeZ, sizeTypes, -⟩ := sizes
  obtain ⟨columnX, columnY, columnZ⟩ := coordinates_pointsOf
    (length_toList_columnOf sizeY sizeX) (length_toList_columnOf sizeZ sizeX)
  simp only [encodeDetectorInfo, coordinateFrame_eq, columnX, columnY, columnZ,
    Array.toArray_toList, columnFrame_columnOf sizeTypes, List.cons.injEq, true_and, and_true,
    columnFrame_toSingle_iff sizeX, columnFrame_toSingle_iff sizeY, columnFrame_toSingle_iff sizeZ]
  have entriesX : ∀ index, coordinate? [Tag.detectorInfo.frame, xs, ys, zs, types] 1 index =
      (columnOf xs)[index]? := coordinate?_eq rfl sizeX
  have entriesY : ∀ index, coordinate? [Tag.detectorInfo.frame, xs, ys, zs, types] 2 index =
      (columnOf ys)[index]? := coordinate?_eq rfl sizeY
  have entriesZ : ∀ index, coordinate? [Tag.detectorInfo.frame, xs, ys, zs, types] 3 index =
      (columnOf zs)[index]? := coordinate?_eq rfl sizeZ
  simp only [RoundsBack, List.forall_mem_cons, List.not_mem_nil, false_implies, implies_true,
    and_true, entriesX, entriesY, entriesZ]

/-- A detector is read as it was written, but rounded, exactly if it has a type for each point. -/
theorem decode_encode_eq_ok_iff {read : DetectorInfo} :
    decodeDetectorInfo (encodeDetectorInfo info) = .ok read ↔
      info.positions.length = info.types.length ∧ read = info.rounded := by
  have columns : ∀ coordinate : Point Double → Double,
      (coordinateFrame coordinate info.positions).size = info.positions.length * wordSize ∧
        (columnOf (coordinateFrame coordinate info.positions)).toList =
          info.positions.map fun position => (coordinate position).toSingle := by
    simp [coordinateFrame]
  have types : (columnFrame info.types.toArray).size = info.types.length * wordSize := by simp
  rw [decodeDetectorInfo_eq_ok_iff]
  constructor
  · rintro ⟨xs, ys, zs, typeFrame, count, written, sizes, rfl⟩
    simp only [encodeDetectorInfo, List.cons.injEq, true_and, and_true] at written
    obtain ⟨rfl, rfl, rfl, rfl⟩ := written
    simp only [List.forall_mem_cons, columns, types] at sizes
    refine ⟨Nat.eq_of_mul_eq_mul_right (by decide) (sizes.1.trans sizes.2.2.2.1.symm), ?_⟩
    simp only [columns, columnOf_columnFrame, pointsOf_toSingle, DetectorInfo.rounded]
  · rintro ⟨same, rfl⟩
    refine ⟨_, _, _, _, info.positions.length, rfl, ?_, ?_⟩
    · simp [columns, types, same]
    · simp only [columns, columnOf_columnFrame, pointsOf_toSingle, DetectorInfo.rounded]

/-- A message is read as a description exactly if it has the form of one: the tag, and four
frames of one length in whole words. What is read is what these frames say, entry by entry, and
writing it gives the frames back byte for byte exactly if rounding undoes widening of their
coordinates, that is, if none is a signalling pattern. Any detector at all can be written; it is
read again exactly if it has one type for each point, and then comes back with its coordinates
rounded. -/
theorem descriptions_round_trip :
    (∀ message, (∃ info, decodeDetectorInfo message = .ok info) ↔ Describes message) ∧
    (∀ message info, decodeDetectorInfo message = .ok info →
      Depicts message info ∧ (encodeDetectorInfo info = message ↔ RoundsBack message) ∧
        (RoundsBack message ↔ IsQuiet message)) ∧
    ∀ info read, decodeDetectorInfo (encodeDetectorInfo info) = .ok read ↔
      info.positions.length = info.types.length ∧ read = info.rounded :=
  ⟨fun _ => exists_decodeDetectorInfo_iff,
    fun _ _ decoded =>
      ⟨depicts_of_decode decoded, encode_of_decode_iff decoded, roundsBack_iff⟩,
    fun _ _ => decode_encode_eq_ok_iff⟩

end Codec

end Wire

end PhotonFerry
