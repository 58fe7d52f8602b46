/-!
# Where a photon came from

Every sample carries a mask of process bits. `Origin` is the part of that mask
that answers questions about provenance; where several processes left their bit,
reemission hides Cherenkov light and Cherenkov light hides scintillation.
-/

namespace PhotonFerry

/-! The bits of a sample's process mask. -/

namespace ProcessBit

def noHit : UInt32 := 0x1
def bulkAbsorb : UInt32 := 0x2
def surfaceDetect : UInt32 := 0x4
def surfaceAbsorb : UInt32 := 0x8
def rayleighScatter : UInt32 := 0x10
def reflectDiffuse : UInt32 := 0x20
def reflectSpecular : UInt32 := 0x40
def surfaceReemit : UInt32 := 0x80
def surfaceTransmit : UInt32 := 0x100
def bulkReemit : UInt32 := 0x200
def cherenkov : UInt32 := 0x400
def scintillation : UInt32 := 0x800
def nanAbort : UInt32 := 0x80000000

/-- Any bit that marks a reemitted photon. -/
def reemit : UInt32 := surfaceReemit ||| bulkReemit

end ProcessBit

/-- The physical process that produced a photon. -/
inductive Origin where
  | reemission
  | cherenkov
  | scintillation
  | unknown
  deriving DecidableEq, Repr

namespace Origin

/-- The origin that a process mask tells of. -/
def ofFlags (bits : UInt32) : Origin :=
  if bits &&& ProcessBit.reemit ≠ 0 then .reemission
  else if bits &&& ProcessBit.cherenkov ≠ 0 then .cherenkov
  else if bits &&& ProcessBit.scintillation ≠ 0 then .scintillation
  else .unknown

/-- Whether `word` occurs in a text. -/
def mentions (word : List Char) : List Char → Bool
  | [] => word.isEmpty
  | head :: tail => word.isPrefixOf (head :: tail) || mentions word tail

/-- The origin that a physics engine's process name tells of; both spellings of
Cherenkov count. -/
def ofProcessName (name : String) : Origin :=
  let text := name.toList
  if mentions "Reemission".toList text then .reemission
  else if mentions "Cerenkov".toList text || mentions "Cherenkov".toList text then .cherenkov
  else if mentions "Scintillation".toList text then .scintillation
  else .unknown

/-- The bits that an outgoing photon of this origin carries. -/
def flagBits : Origin → UInt32
  | reemission => ProcessBit.bulkReemit
  | cherenkov => ProcessBit.cherenkov
  | scintillation => ProcessBit.scintillation
  | unknown => 0

/-- The creator label that a detector hit carries. -/
def label : Origin → String
  | reemission => "Reemission"
  | cherenkov => "Cerenkov"
  | scintillation => "Scintillation"
  | unknown => "Unknown"

end Origin

end PhotonFerry
