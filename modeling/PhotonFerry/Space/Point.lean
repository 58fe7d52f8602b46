import PhotonFerry.Number.Single
/-!
# Points and directions

Points of detector space over any scalars. The program computes with doubles;
exact arithmetic takes the same definitions at other scalars. Operations are
written in the order in which rounding happens and are never reassociated.
-/

namespace PhotonFerry

/-- What geometry asks of its numbers. -/
class Scalar (K : Type) extends Add K, Sub K, Mul K where
  /-- The neutral start of a sum. -/
  zero : K
  /-- One over a count. -/
  reciprocal : Nat → K
  /-- Whether a length whose square is the first argument is below the second. -/
  shorter : K → K → Bool

instance : Scalar Float where
  zero := 0.0
  reciprocal count := 1.0 / Float.ofNat count
  shorter square limit := square.sqrt < limit

/-- A point or direction; positions are in millimetres. -/
@[ext] structure Point (K : Type) where
  x : K
  y : K
  z : K
  deriving DecidableEq, Repr

namespace Point

variable {K : Type}

instance [Add K] : Add (Point K) where
  add left right := ⟨left.x + right.x, left.y + right.y, left.z + right.z⟩

instance [Sub K] : Sub (Point K) where
  sub left right := ⟨left.x - right.x, left.y - right.y, left.z - right.z⟩

/-- Every coordinate times one factor. -/
def scale [Mul K] (point : Point K) (factor : K) : Point K :=
  ⟨point.x * factor, point.y * factor, point.z * factor⟩

section Coordinates

variable (left right : Point K)

@[simp] theorem add_x [Add K] : (left + right).x = left.x + right.x := rfl

@[simp] theorem add_y [Add K] : (left + right).y = left.y + right.y := rfl

@[simp] theorem add_z [Add K] : (left + right).z = left.z + right.z := rfl

@[simp] theorem sub_x [Sub K] : (left - right).x = left.x - right.x := rfl

@[simp] theorem sub_y [Sub K] : (left - right).y = left.y - right.y := rfl

@[simp] theorem sub_z [Sub K] : (left - right).z = left.z - right.z := rfl

@[simp] theorem scale_x [Mul K] (factor : K) : (left.scale factor).x = left.x * factor := rfl

@[simp] theorem scale_y [Mul K] (factor : K) : (left.scale factor).y = left.y * factor := rfl

@[simp] theorem scale_z [Mul K] (factor : K) : (left.scale factor).z = left.z * factor := rfl

end Coordinates

/-- The square of the length. -/
def squaredNorm [Add K] [Mul K] (point : Point K) : K :=
  point.x * point.x + point.y * point.y + point.z * point.z

/-- The origin of coordinates. -/
def zero [Scalar K] : Point K :=
  ⟨Scalar.zero, Scalar.zero, Scalar.zero⟩

/-- The sum in list order. -/
def sum [Scalar K] (points : List (Point K)) : Point K :=
  points.foldl (· + ·) zero

/-- The arithmetic mean; the empty list has none. -/
def centroid [Scalar K] (points : List (Point K)) : Option (Point K) :=
  if points.isEmpty then none
  else some ((sum points).scale (Scalar.reciprocal points.length))

/-- Points that are not none have a centroid. -/
theorem exists_centroid [Scalar K] {points : List (Point K)} (inhabited : points ≠ []) :
    ∃ centre, centroid points = some centre := by
  simp [centroid, inhabited]

/-- Whether two points lie closer together than `limit`. -/
def near [Scalar K] (left right : Point K) (limit : K) : Bool :=
  Scalar.shorter (left - right).squaredNorm limit

/-- The length of a direction. -/
def norm (point : Point Float) : Float :=
  point.squaredNorm.sqrt

/-- How far apart two points are. -/
def distance (left right : Point Float) : Float :=
  (left - right).norm

/-- The point with every coordinate changed in one way. -/
def map {L : Type} (change : K → L) (point : Point K) : Point L :=
  ⟨change point.x, change point.y, change point.z⟩

/-- The same point with every coordinate rounded to single precision. -/
def narrow (point : Point Float) : Point Single :=
  point.map Single.narrow

/-- The same point in double precision. -/
def widen (point : Point Single) : Point Float :=
  point.map Single.widen

end Point

end PhotonFerry
