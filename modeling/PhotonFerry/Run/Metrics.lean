import PhotonFerry.Client.Session
/-!
# What is counted

Each processed event has a summary, and a run adds up its summaries.
-/

namespace PhotonFerry

/-- What happened to one event. -/
structure EventSummary where
  event : UInt32
  photons : Nat
  photoelectrons : Nat
  hits : Nat
  /-- Photoelectrons on channels without a photomultiplier. -/
  dropped : Nat
  outcome : Outcome
  deriving DecidableEq, Repr

/-- What a run adds up. -/
structure RunMetrics where
  events : Nat := 0
  photonsSent : Nat := 0
  photoelectronsReceived : Nat := 0
  hitsRecorded : Nat := 0
  droppedSamples : Nat := 0
  failedEvents : Nat := 0
  deferredEvents : Nat := 0
  reconnects : Nat := 0
  deriving DecidableEq, Repr

namespace RunMetrics

/-- Add one event. -/
def record (metrics : RunMetrics) (summary : EventSummary) : RunMetrics :=
  { metrics with
    events := metrics.events + 1
    photonsSent := metrics.photonsSent + summary.photons
    photoelectronsReceived := metrics.photoelectronsReceived + summary.photoelectrons
    hitsRecorded := metrics.hitsRecorded + summary.hits
    droppedSamples := metrics.droppedSamples + summary.dropped
    failedEvents := metrics.failedEvents + if summary.outcome = .failed then 1 else 0
    deferredEvents := metrics.deferredEvents + if summary.outcome = .deferred then 1 else 0 }

/-- The report of a finished run. -/
def summaryText (metrics : RunMetrics) : String :=
  s!"Run summary: events={metrics.events}, photons={metrics.photonsSent}, "
    ++ s!"pe={metrics.photoelectronsReceived}, hits={metrics.hitsRecorded}, "
    ++ s!"dropped={metrics.droppedSamples}, failed={metrics.failedEvents}, "
    ++ s!"deferred={metrics.deferredEvents}, reconnects={metrics.reconnects}"

end RunMetrics

end PhotonFerry
