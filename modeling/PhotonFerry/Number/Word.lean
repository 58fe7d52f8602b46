/-!
# Words and powers

A word of some bits holds an unsigned number below a power of two, or a signed
one between two halves of it.
-/

namespace PhotonFerry

/-- A power of two. -/
def twoTo (exponent : Nat) : Nat := Nat.pow 2 exponent

/-- A power of ten. -/
def tenTo (exponent : Nat) : Nat := Nat.pow 10 exponent

namespace Word

/-- Whether a number is that of an unsigned word of the given number of bits. -/
def isUnsigned (bits value : Nat) : Bool :=
  value < twoTo bits

/-- Whether a number is that of a signed word of the given number of bits. -/
def isSigned (bits : Nat) (value : Int) : Bool :=
  -(twoTo (bits - 1) : Int) ≤ value && value < (twoTo (bits - 1) : Int)

/-- The signed number of the word that an unsigned number fills. -/
def signed (bits value : Nat) : Int :=
  (value : Int).bmod (twoTo bits)

end Word

end PhotonFerry
