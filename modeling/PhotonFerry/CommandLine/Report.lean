import PhotonFerry.Detector.Hit
import PhotonFerry.Json.Printer
import PhotonFerry.Run.Metrics
import PhotonFerry.Wire.DetectorInfo
/-!
# Reports

What a command prints when it succeeds: a JSON object whose members are in the
order of their names.
-/

namespace PhotonFerry.CommandLine

open Json (Value)

/-- How often each key was counted, in the order of the keys. -/
abbrev Counts (κ : Type) := List (κ × Nat)

namespace Counts

variable {κ : Type} [DecidableEq κ] [LT κ] [DecidableLT κ]

/-- Count a key once more. -/
def add (key : κ) : Counts κ → Counts κ
  | [] => [(key, 1)]
  | (other, count) :: rest =>
    if key < other then (key, 1) :: (other, count) :: rest
    else if key = other then (other, count + 1) :: rest
    else (other, count) :: add key rest

/-- Count some keys. -/
def ofKeys (keys : List κ) : Counts κ :=
  keys.foldl (fun counts key => add key counts) []

/-- What was counted under all keys together. -/
def total (counts : Counts κ) : Nat :=
  (counts.map Prod.snd).foldr (· + ·) 0

end Counts

/-- Counts by label as an object. -/
def countsValue (counts : Counts String) : Value :=
  .ofMembers (counts.map fun (label, count) => (label, .ofNat count))

/-- What the hits of a run add up to. -/
structure HitTally where
  /-- The hits of each photomultiplier. -/
  perPhotomultiplier : Counts UInt32 := []
  /-- The hits of the photons that each process made, by the name of the process. -/
  perProcess : Counts String := []
  totalCharge : Float := 0.0

namespace HitTally

/-- Add one hit. -/
def record (tally : HitTally) (hit : Hit) : HitTally where
  perPhotomultiplier := tally.perPhotomultiplier.add hit.id
  perProcess := tally.perProcess.add hit.creator.label
  totalCharge := tally.totalCharge + hit.charge

/-- Add some hits up, in their order. -/
def ofHits (hits : List Hit) : HitTally :=
  hits.foldl record {}

end HitTally

/-- What is counted of a run, as an object. -/
def metricsValue (metrics : RunMetrics) : Value :=
  .ofMembers [
    ("deferred_events", .ofNat metrics.deferredEvents),
    ("dropped_samples", .ofNat metrics.droppedSamples),
    ("events", .ofNat metrics.events),
    ("failed_events", .ofNat metrics.failedEvents),
    ("hits_recorded", .ofNat metrics.hitsRecorded),
    ("pe_received", .ofNat metrics.photoelectronsReceived),
    ("photons_sent", .ofNat metrics.photonsSent),
    ("reconnects", .ofNat metrics.reconnects)]

/-- The report on a replayed recording. -/
def replayReport (metrics : RunMetrics) (tally : HitTally) : Value :=
  .ofMembers [
    ("hits_per_process", countsValue tally.perProcess),
    ("metrics", metricsValue metrics),
    ("pmts_hit", .ofNat tally.perPhotomultiplier.length),
    ("total_charge", .ofFloat tally.totalCharge)]

/-- The report on what a recording holds. -/
def inspectReport (path : String) (events positions : Nat) : Value :=
  .ofMembers [("events", .ofNat events), ("pmts", .ofNat positions), ("table", .ofString path)]

/-- The report on a live backend. -/
def probeReport (endpoint : String) (info : DetectorInfo) (reconnects : Nat) : Value :=
  .ofMembers [
    ("endpoint", .ofString endpoint),
    ("pmts", .ofNat info.size),
    ("reconnects", .ofNat reconnects),
    ("types", countsValue (.ofKeys (info.types.map fun kind => toString kind.toNat)))]

end PhotonFerry.CommandLine
