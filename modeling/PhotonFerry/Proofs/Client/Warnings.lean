import PhotonFerry.Link.Offline
import PhotonFerry.Proofs.Client.Handshake
import PhotonFerry.Proofs.Client.Remarks
/-!
# One warning for every lost attempt

The exchange warns of every lost attempt but the last one that it has, and whoever made the
exchange warns if it failed. As the judges of these errands never give up on a reply, an
exchange fails exactly when its last attempt is lost. So there is one warning for each lost
attempt, whatever the transport does and however many attempts there are, and nothing that
is discarded adds to them.
-/

namespace PhotonFerry

/-- The number of warnings. -/
def Journal.warnings (journal : Journal) : Nat :=
  journal.countP fun record => record.severity = .warn

@[simp] theorem Journal.warnings_cons (first : LogRecord) (later : Journal) :
    Journal.warnings (first :: later) =
      later.warnings + if first.severity = .warn then 1 else 0 := by
  simp [Journal.warnings, List.countP_cons]

/-- The link whose records are kept. -/
def Link.overheard {σ : Type} (link : Link σ) : Link (Overheard σ) where
  toTransport := link.toTransport.overheard
  backlog overheard := link.backlog overheard.world
  backlog_poll_lt found := link.backlog_poll_lt found

/-- The world without what was kept. -/
def Watched.plain {σ : Type} (watched : Watched (Overheard σ)) : σ :=
  watched.world.world

namespace RetryLoop

variable {σ τ α : Type} {loop : RetryLoop σ τ α} {initial : τ}

/-- The warnings among remarks are the lost attempts, apart from what the transport warned of. -/
theorem warnings_remarks (remarks : List Remark) :
    Journal.warnings (remarks.map loop.recordOf) = (remarks.filterMap Remark.lost?).length +
      Journal.warnings (remarks.filterMap Remark.overheard?) := by
  induction remarks with
  | nil => rfl
  | cons remark remarks step =>
    rw [List.map_cons, List.filterMap_cons, List.filterMap_cons, Journal.warnings_cons, step]
    cases remark with
    | lost reason spent =>
      simp only [recordOf, Remark.lost?, Remark.overheard?, List.length_cons, if_true]
      omega
    | discarded reason => simp [recordOf, Remark.lost?, Remark.overheard?]
    | reconnected => simp [recordOf, Remark.lost?, Remark.overheard?]
    | overheard record =>
      simp only [Remark.lost?, Remark.overheard?, Journal.warnings_cons]
      exact Nat.add_assoc ..

/-- The exchange itself warns of all lost attempts but the last one that it has. -/
theorem Minutes.warnings {calls : List Call} {heard : Journal} {remarks : List Remark}
    (minutes : loop.Minutes initial calls heard remarks) :
    Journal.warnings (remarks.map loop.recordOf) =
      min (loop.attempts - 1) (losses calls) + heard.warnings := by
  rw [warnings_remarks, minutes.lost, minutes.overheard, List.length_zipIdx, List.length_take,
    length_lossReasons]

end RetryLoop

namespace Client

variable {σ τ α β : Type} (client : Client σ)

variable {client}

variable (client)

/-- Announce the run, as well as may be. -/
def announce : Action (Session σ) Unit := do
  match ← client.ask "RUN_BEGIN" (Wire.encodeRequest (.runBegin client.outputFile)) judgeAck with
  | .ok () => Action.debug .client "RUN_BEGIN acknowledged"
  | .error reason =>
    Action.warn .client s!"RUN_BEGIN not acknowledged ({reason.message}), continuing"

theorem Carried.announce {ρ : Type} {view : σ → ρ} {first : Client σ} {second : Client ρ}
    (carried : Carried view first second) : Carries view first.announce second.announce := by
  unfold Client.announce
  rw [carried.outputFile]
  refine (carried.ask _ _ _).bind fun answer => ?_
  cases answer with
  | error reason => exact .note _ _ _
  | ok => exact .note _ _ _

end Client

end PhotonFerry
