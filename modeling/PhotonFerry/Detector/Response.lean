/-!
# How photomultipliers respond

A response turns the arrival of a photoelectron into a front-end time and a
charge, by the model of the photomultiplier. It may keep a state, such as that of
a random generator, from one photoelectron to the next.
-/

namespace PhotonFerry

/-- Responses with a state of type `ρ`. -/
class Response (ρ : Type) where
  /-- The front-end time for an arrival at the given time, in ns. -/
  pickTime : (model : Nat) → (hitTime : Float) → ρ → Float × ρ
  /-- The charge of one photoelectron, in units of the mean charge of one. -/
  pickCharge : (model : Nat) → ρ → Float × ρ

/-- A response without delay and with unit charge. -/
structure IdealResponse where
  deriving DecidableEq, Repr

instance : Response IdealResponse where
  pickTime _ hitTime response := (hitTime, response)
  pickCharge _ response := (1.0, response)

/-- A response with a delay and a charge for each model; models beyond the
tables respond ideally. -/
structure TabulatedResponse where
  delays : List Float
  charges : List Float

instance : Response TabulatedResponse where
  pickTime model hitTime response := (hitTime + response.delays[model]?.getD 0.0, response)
  pickCharge model response := (response.charges[model]?.getD 1.0, response)

end PhotonFerry
