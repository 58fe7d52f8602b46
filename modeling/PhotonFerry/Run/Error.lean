import PhotonFerry.Client.Session
import PhotonFerry.Detector.Catalog
import PhotonFerry.Endpoint.Broker
import PhotonFerry.Geometry.ChannelMap
import PhotonFerry.Recording.Table
/-!
# What ends a run

Whatever goes wrong with a single event on a live backend is counted and
forgotten. The errors here are the others: they end a run or keep it from
beginning.
-/

namespace PhotonFerry

/-- Why a run cannot go on. -/
inductive RunError where
  | discovery (reason : Endpoint.DiscoveryError)
  | start (reason : StartError)
  | geometry (reason : CountMismatch)
  /-- Not one of the given number of channels has a photomultiplier. -/
  | noPmtMatched (channels : Nat)
  | recording (reason : RecordingError)
  /-- The backend answered for another event. -/
  | eventMismatch (requested returned : UInt32)
  | noActiveRun
  | catalog (reason : CatalogError)
  | configuration (reason : String)
  /-- A channel leads to a photomultiplier that the catalog does not have. The program does not
  report this: it looks the photomultiplier up out of range, and the lookup aborts the run. Here
  such a fault is an error, so that what never aborts is a run that never has this error. -/
  | unknownPmt (id : UInt32)
  deriving DecidableEq, Repr

/-- The report of an error. -/
def RunError.message : RunError → String
  | discovery reason => reason.message
  | start reason => reason.message
  | geometry reason => s!"Geometry reconciliation failed: {reason.message}"
  | noPmtMatched channels =>
    s!"No backend PMT could be matched to the detector catalog ({channels} PMTs)"
  | recording reason => s!"Replay table error: {reason.message}"
  | eventMismatch requested returned =>
    s!"Backend returned event {returned.toNat} for requested event {requested.toNat}"
  | noActiveRun => "No run in progress"
  | catalog reason => s!"Configuration error: {reason.message}"
  | configuration reason => s!"Configuration error: {reason}"
  | unknownPmt id => s!"PMT {id.toNat} is not in the detector catalog"

end PhotonFerry
