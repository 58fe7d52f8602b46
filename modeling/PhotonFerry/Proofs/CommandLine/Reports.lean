import PhotonFerry.Proofs.CommandLine.Tallies
import PhotonFerry.Proofs.Number.Digits
/-!
# What a report says

Whoever reads a report looks its members up by their names and finds numbers there, written
with decimal digits. The report on a replay says in this way what its run counted, how many
hits each process has, how many photomultipliers were hit, and the charge of all hits.
-/

namespace PhotonFerry

namespace Json.Value

/-- What stands in a value at the end of names of members, the first one first. -/
def at? : List String → Value → Option Value
  | [], value => some value
  | name :: rest, .object members => (members.lookup (some name)).bind (at? rest)
  | _ :: _, _ => none

/-- A value is a number that is written with decimal digits and nothing else. -/
def Spells (value : Value) (number : Nat) : Prop :=
  ∃ digits, value = .number { whole := digits } ∧ Decimal.digitsValue digits = number

/-- The digits of a number spell it. -/
theorem spells_ofNat (number : Nat) : (ofNat number).Spells number :=
  ⟨_, rfl, Decimal.digitsValue_toDigits number⟩

/-- A value spells a number at the end of names. -/
def SpellsAt (value : Value) (path : List String) (number : Nat) : Prop :=
  ∃ member ∈ value.at? path, member.Spells number

/-- A member of an object is found under its name. -/
theorem at?_ofMembers (members : List (String × Value)) (name : String) (rest : List String) :
    (ofMembers members).at? (name :: rest) = (members.lookup name).bind (at? rest) := by
  rw [ofMembers, at?]
  congr 1
  induction members with
  | nil => rfl
  | cons member members step =>
    obtain ⟨held, value⟩ := member
    simp only [List.map_cons, List.lookup_cons, step, Option.some_beq_some]

end Json.Value

namespace CommandLine

open Json (Value)

/-- A value is an object with a member for each count, in their order. -/
def Lists (value : Value) (counts : Counts String) : Prop :=
  ∃ members, value = .object members ∧
    List.Forall₂ (fun member count => member.1 = some count.1 ∧ member.2.Spells count.2)
      members counts

/-- Counts are listed label by label. -/
theorem lists_countsValue (counts : Counts String) : Lists (countsValue counts) counts := by
  refine ⟨_, rfl, ?_⟩
  induction counts with
  | nil => exact .nil
  | cons count counts step => exact .cons ⟨rfl, Value.spells_ofNat _⟩ step

/-- The report of a run says what was counted and what its hits add up to. -/
structure ReportsOn (report : Value) (metrics : RunMetrics) (hits : List Hit) : Prop where
  events : report.SpellsAt ["metrics", "events"] metrics.events
  photonsSent : report.SpellsAt ["metrics", "photons_sent"] metrics.photonsSent
  photoelectronsReceived :
    report.SpellsAt ["metrics", "pe_received"] metrics.photoelectronsReceived
  hitsRecorded : report.SpellsAt ["metrics", "hits_recorded"] metrics.hitsRecorded
  droppedSamples : report.SpellsAt ["metrics", "dropped_samples"] metrics.droppedSamples
  failedEvents : report.SpellsAt ["metrics", "failed_events"] metrics.failedEvents
  deferredEvents : report.SpellsAt ["metrics", "deferred_events"] metrics.deferredEvents
  reconnects : report.SpellsAt ["metrics", "reconnects"] metrics.reconnects
  /-- The hits are counted by the process that made them. -/
  perProcess : ∃ value ∈ report.at? ["hits_per_process"],
    Lists value (HitTally.ofHits hits).perProcess
  /-- A photomultiplier with several hits counts once. -/
  photomultipliers : report.SpellsAt ["pmts_hit"] (hits.map Hit.id).dedup.length
  /-- Charges are added in the order of the hits. -/
  charge : report.at? ["total_charge"] =
    some (.ofFloat (hits.foldl (fun charge hit => charge + hit.charge) 0.0))

/-- The report on a replay reports on its metrics and on the hits of its tally. -/
theorem replayReport_reportsOn (metrics : RunMetrics) (hits : List Hit) :
    ReportsOn (replayReport metrics (HitTally.ofHits hits)) metrics hits := by
  have member {name : String} {number : Nat}
      (listed : (metricsValue metrics).at? [name] = some (.ofNat number)) :
      (replayReport metrics (HitTally.ofHits hits)).SpellsAt ["metrics", name] number := by
    refine ⟨.ofNat number, ?_, Value.spells_ofNat number⟩
    simpa [replayReport, Value.at?_ofMembers, List.lookup_cons] using listed
  constructor
  case perProcess =>
    refine ⟨_, ?_, lists_countsValue _⟩
    simp [replayReport, Value.at?_ofMembers, Value.at?]
  case photomultipliers =>
    rw [← HitTally.length_perPhotomultiplier]
    refine ⟨_, ?_, Value.spells_ofNat _⟩
    simp [replayReport, Value.at?_ofMembers, Value.at?, List.lookup_cons]
  case charge =>
    rw [← HitTally.totalCharge_ofHits]
    simp [replayReport, Value.at?_ofMembers, Value.at?, List.lookup_cons]
  all_goals
    apply member
    simp [metricsValue, Value.at?_ofMembers, Value.at?, List.lookup_cons]

end CommandLine

end PhotonFerry
