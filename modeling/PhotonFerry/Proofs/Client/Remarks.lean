import PhotonFerry.Proofs.Client.Retries
/-!
# What an exchange says

The journal of an exchange has records of the client and of its transport. A `Remark` is
such a record together with what it is about, so that a journal that was made from remarks
can be taken apart again: into the lost attempts, the discarded replies and what was only
overheard. `Minutes` is the invariant: by the calls so far, the remarks are the right ones
and in the right order, and none is made twice.
-/

namespace PhotonFerry

/-- The world outside and the records that a transport left so far. -/
structure Overheard (σ : Type) where
  world : σ
  heard : Journal := []

/-- Act on the world and keep what is said there. -/
def Overheard.listening {σ α : Type} (action : Action σ α) : Action (Overheard σ) α :=
  fun overheard =>
    let result := action overheard.world
    ⟨result.value, ⟨result.state, overheard.heard ++ result.journal⟩, result.journal⟩

/-- The transport whose records are kept. -/
def Transport.overheard {σ : Type} (transport : Transport σ) : Transport (Overheard σ) where
  endpoint := transport.endpoint
  connect := Overheard.listening transport.connect
  send request := Overheard.listening (transport.send request)
  poll := Overheard.listening transport.poll

/-- The loop over the transport whose records are kept. -/
def RetryLoop.overheard {σ τ α : Type} (loop : RetryLoop σ τ α) : RetryLoop (Overheard σ) τ α :=
  loop.onto loop.transport.overheard

namespace Session

variable {σ : Type}

/-- The session in which records are kept from now on. -/
def overheard (session : Session σ) : Session (Overheard σ) :=
  { session with world := { world := session.world } }

/-- What the transport has said since then. -/
def heard (session : Session (Watched (Overheard σ))) : Journal :=
  session.world.world.heard

end Session

namespace Call

/-- Why a call came to nothing. -/
def loss? : Call → Option PeerError
  | connect (.error reason) | send _ (.error reason) | poll (.error reason) => some reason
  | poll (.ok none) => some .timeout
  | _ => none

theorem isSome_loss? (call : Call) : call.loss?.isSome = call.isLoss := by
  rcases call with (_ | _) | ⟨_, _ | _⟩ | (_ | _ | _) <;> rfl

/-- What came to nothing delivered nothing. -/
theorem reply?_of_loss? {call : Call} {reason : PeerError} (loss : call.loss? = some reason) :
    call.reply? = none := by
  rcases call with (_ | _) | ⟨_, _ | _⟩ | (_ | _ | _) <;> first | rfl | cases loss

end Call

/-- Why attempts were lost, in their order. -/
def lossReasons (calls : List Call) : List PeerError :=
  calls.filterMap Call.loss?

@[simp] theorem length_lossReasons (calls : List Call) :
    (lossReasons calls).length = losses calls := by
  simp only [lossReasons, List.length_filterMap_eq_countP, Call.isSome_loss?, losses]

@[simp] theorem lossReasons_concat (calls : List Call) (call : Call) :
    lossReasons (calls ++ [call]) = lossReasons calls ++ call.loss?.toList := by
  simp only [lossReasons, List.filterMap_append]
  cases found : call.loss? <;> simp [found]

/-- Why a verdict discards a reply. -/
def Verdict.rejection? {α : Type} : Verdict α → Option Wire.WireError
  | .reject reason => some reason
  | .accept _ | .abort _ => none

/-- What a record in the journal of an exchange is about. -/
inductive Remark where
  /-- An attempt is lost, and another follows. -/
  | lost (reason : PeerError) (spent : Nat)
  /-- A reply is discarded. -/
  | discarded (reason : Wire.WireError)
  /-- A connection was opened that is not the first. -/
  | reconnected
  /-- The transport said this. -/
  | overheard (record : LogRecord)

namespace Remark

/-- The lost attempt with its number. -/
def lost? : Remark → Option (PeerError × Nat)
  | lost reason spent => some (reason, spent)
  | _ => none

/-- Why a reply is discarded. -/
def discarded? : Remark → Option Wire.WireError
  | discarded reason => some reason
  | _ => none

/-- The record of the transport. -/
def overheard? : Remark → Option LogRecord
  | overheard record => some record
  | _ => none

end Remark

namespace RetryLoop

variable {σ τ α : Type} (loop : RetryLoop σ τ α)

/-- How a remark is put in the journal. -/
def recordOf : Remark → LogRecord
  | .lost reason spent => ⟨.warn, .client, lossText loop.what spent loop.attempts reason⟩
  | .discarded reason => ⟨.info, .client, discardText reason⟩
  | .reconnected => ⟨.info, .client, s!"Reconnected to backend at {loop.transport.endpoint}"⟩
  | .overheard record => record

/-- What the client remarks on a lost attempt. -/
def onLoss (lost : Nat) (reason : PeerError) : List Remark :=
  if lost + 1 < loop.attempts then [.lost reason (lost + 1)] else []

/-- What it remarks on a reply. -/
def onReply (memory : τ) (reply : Wire.Message) : List Remark :=
  ((loop.judge reply memory).1.rejection?.map Remark.discarded).toList

/-- What it remarks on a new connection. -/
def onOpening (everConnected : Bool) : List Remark :=
  if everConnected then [.reconnected] else []

/-- What it remarks on a call. -/
def onCall (everConnected : Bool) (standing : Standing τ α) (call : Call) : List Remark :=
  match call.loss?, call.reply? with
  | some reason, _ => loop.onLoss standing.lost reason
  | none, some reply => loop.onReply standing.memory reply
  | none, none => if call.opens then onOpening everConnected else []

/-- By the calls so far and what was heard in them, these are the remarks. -/
structure Minutes (initial : τ) (calls : List Call) (heard : Journal) (remarks : List Remark) :
    Prop where
  /-- Lost attempts are numbered from one. What the last one is lost for is not told here. -/
  lost : remarks.filterMap Remark.lost? =
    ((lossReasons calls).take (loop.attempts - 1)).zipIdx 1
  discarded : remarks.filterMap Remark.discarded? =
    (loop.judge.verdicts (repliesOf calls) initial).filterMap Verdict.rejection?
  overheard : remarks.filterMap Remark.overheard? = heard

variable {loop} {initial : τ} {calls : List Call} {heard further : Journal}
  {remarks : List Remark}

/-- A lost attempt is remarked on with its number, unless it was the last one. -/
theorem filterMap_lost?_onCall (everConnected : Bool) {standing : Standing τ α} (call : Call)
    (lost : standing.lost = losses calls) :
    ((lossReasons calls).take (loop.attempts - 1)).zipIdx 1 ++
        (loop.onCall everConnected standing call).filterMap Remark.lost? =
      ((lossReasons (calls ++ [call])).take (loop.attempts - 1)).zipIdx 1 := by
  have counted : (lossReasons calls).length = standing.lost := by
    rw [length_lossReasons, lost]
  unfold onCall
  rw [lossReasons_concat]
  cases call.loss? with
  | none =>
    simp only [Option.toList_none, List.append_nil]
    cases call.reply? with
    | none => cases call.opens <;> cases everConnected <;> simp [onOpening, Remark.lost?]
    | some reply =>
      cases rejected : (loop.judge reply standing.memory).1.rejection? <;>
        simp [onReply, rejected, Remark.lost?]
  | some reason =>
    simp only [onLoss, Option.toList_some]
    by_cases left : standing.lost + 1 < loop.attempts
    · rw [if_pos left, List.take_of_length_le (by omega),
        List.take_of_length_le (by rw [List.length_append, List.length_singleton]; omega),
        List.zipIdx_append, counted, Nat.add_comm 1]
      rfl
    · rw [if_neg left, List.take_append_of_le_length (by omega)]
      exact List.append_nil _

/-- A reply is remarked on if it is discarded, with the reason. -/
theorem filterMap_discarded?_onCall (everConnected : Bool) {standing : Standing τ α} (call : Call)
    (memory : standing.memory = loop.judge.remember (repliesOf calls) initial) :
    (loop.judge.verdicts (repliesOf calls) initial).filterMap Verdict.rejection? ++
        (loop.onCall everConnected standing call).filterMap Remark.discarded? =
      (loop.judge.verdicts (repliesOf (calls ++ [call])) initial).filterMap Verdict.rejection? := by
  unfold onCall
  rw [repliesOf_concat]
  cases loss : call.loss? with
  | some reason =>
    rw [Call.reply?_of_loss? loss, Option.toList_none, List.append_nil]
    by_cases left : standing.lost + 1 < loop.attempts <;> simp [onLoss, left, Remark.discarded?]
  | none =>
    cases call.reply? with
    | none => cases call.opens <;> cases everConnected <;> simp [onOpening, Remark.discarded?]
    | some reply =>
      rw [Option.toList_some, Judge.verdicts_concat, ← memory, List.filterMap_append]
      cases rejected : (loop.judge reply standing.memory).1.rejection? <;>
        simp [onReply, rejected, Remark.discarded?]

/-- What the client remarks is its own. -/
theorem filterMap_overheard?_onCall (everConnected : Bool) (standing : Standing τ α)
    (call : Call) : (loop.onCall everConnected standing call).filterMap Remark.overheard? = [] := by
  unfold onCall
  cases call.loss? with
  | some reason =>
    by_cases left : standing.lost + 1 < loop.attempts <;> simp [onLoss, left, Remark.overheard?]
  | none =>
    cases call.reply? with
    | none => cases call.opens <;> cases everConnected <;> simp [onOpening, Remark.overheard?]
    | some reply =>
      cases rejected : (loop.judge reply standing.memory).1.rejection? <;>
        simp [onReply, rejected, Remark.overheard?]

/-- The minutes stay right with what is said of one more call. -/
theorem Minutes.concat {standing : Standing τ α} {call : Call} {everConnected : Bool}
    (minutes : loop.Minutes initial calls heard remarks) (lost : standing.lost = losses calls)
    (memory : standing.memory = loop.judge.remember (repliesOf calls) initial) :
    loop.Minutes initial (calls ++ [call]) (heard ++ further)
      (remarks ++ (further.map Remark.overheard ++ loop.onCall everConnected standing call)) where
  lost := by
    have silent : (further.map Remark.overheard).filterMap Remark.lost? = [] := by
      simp [Remark.lost?]
    rw [List.filterMap_append, List.filterMap_append, silent, List.nil_append, minutes.lost]
    exact filterMap_lost?_onCall everConnected call lost
  discarded := by
    have silent : (further.map Remark.overheard).filterMap Remark.discarded? = [] := by
      simp [Remark.discarded?]
    rw [List.filterMap_append, List.filterMap_append, silent, List.nil_append, minutes.discarded]
    exact filterMap_discarded?_onCall everConnected call memory
  overheard := by
    have same : (further.map Remark.overheard).filterMap Remark.overheard? = further := by
      simp [List.filterMap_map, Function.comp_def, Remark.overheard?]
    rw [List.filterMap_append, List.filterMap_append, same, minutes.overheard,
      filterMap_overheard?_onCall, List.append_nil]

variable (loop)

end RetryLoop

end PhotonFerry
