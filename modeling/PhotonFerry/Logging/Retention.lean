import PhotonFerry.Disk.Basic
import PhotonFerry.Logging.Calendar
import PhotonFerry.Number.Word
/-!
# The retention of log files

Log files that were last changed before a cutoff are removed. The cutoff lies a
number of days before now. That number is kept as a signed 64-bit word, so that
the largest numbers stand for days to come; one that leads out of the calendar
gives no cutoff at all.
-/

namespace PhotonFerry.Retention

/-- What the name of every log file begins with. -/
def stem : String := "photon-offload.log"

/-- The longest span between two instants, in seconds. -/
def longestSpan : Nat := (twoTo 63 - 1) / 1000

/-- The instant before which log files are expired. -/
def cutoff? (now : Int) (days : Nat) : Option Int :=
  let span := Word.signed 64 days * Calendar.secondsPerDay
  if longestSpan < span.natAbs then none
  else if Calendar.Holds (now - span) then some (now - span)
  else none

/-- Whether a name is that of a log file. -/
def isLogName (name : String) : Bool :=
  name.startsWith stem

/-- Whether an entry of a log folder is expired. -/
def isExpired (cutoff : Int) (name : String) (node : DiskNode) : Bool :=
  match node with
  | .folder _ => false
  | .file _ modified => isLogName name && modified < cutoff

/-- Remove the expired entries of a folder. -/
def clean (folder : Place) (cutoff : Int) (disk : Disk) : Disk :=
  disk.modifyAt folder (.keep fun name node => !isExpired cutoff name node)

end PhotonFerry.Retention
