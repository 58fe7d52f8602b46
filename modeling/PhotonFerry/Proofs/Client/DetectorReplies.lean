import PhotonFerry.Link.Scripted
import PhotonFerry.Proofs.Client.Operations
import PhotonFerry.Proofs.Wire.DetectorInfo
/-!
# Replies while the detector is awaited

A client that waits for the description of the detector takes one that has its form,
gives up at one that has its tag and not its form, and discards every message that
another tag begins, or none that is known. A message without frames has no tag that
could show that it belongs elsewhere, and the client gives up at it as well.
-/

namespace PhotonFerry

/-- The messages are delivered, one after the other. -/
inductive Transport.Hears {σ : Type} (transport : Transport σ) :
    List Wire.Message → σ → σ → Prop where
  | nil {world} : Hears transport [] world world
  | cons {world after message later}
      (delivered : (transport.poll world).value = .ok (some message))
      (rest : Hears transport later (transport.poll world).state after) :
      Hears transport (message :: later) world after

section Waiting

variable {σ τ α : Type} {discarded : List Wire.Message}

/-- However many replies are discarded, an exchange waits on, with the attempts that it had. -/
theorem RetryLoop.run_hears (loop : RetryLoop σ τ α) (lost : Nat) (session : Session σ)
    {memory : τ} {after : σ} (heard : loop.transport.Hears discarded session.world after)
    (rejected : ∀ other ∈ discarded, ∃ reason, loop.judge other memory = (.reject reason, memory)) :
    let waiting := loop.run discarded.length ⟨memory, lost, .waiting⟩ session
    waiting.value = ⟨memory, lost, .waiting⟩ ∧ waiting.state = { session with world := after } := by
  induction discarded generalizing session with
  | nil =>
    cases heard
    exact ⟨rfl, rfl⟩
  | cons other later step =>
    obtain ⟨reason, judged⟩ := rejected other List.mem_cons_self
    cases heard with
    | cons delivered rest =>
      obtain ⟨value, state⟩ := loop.step_delivered lost session delivered judged
      rw [List.length_cons, Nat.add_comm, run_add]
      simp only [Action.bind_value, Action.bind_state, run_one, value, state]
      exact step _ rest fun other member => rejected other (List.mem_cons_of_mem _ member)

namespace Link

variable (link : Link σ) (verdict : Wire.Message → Verdict α) {world : σ} {reply : Wire.Message}

/-- Waiting over a link ends with a reply, or goes on behind it, as its verdict says. -/
theorem awaitReply_delivered (delivered : (link.poll world).value = .ok (some reply)) :
    let waited := link.awaitReply (Judge.ofReply verdict) () world
    let further := link.awaitReply (Judge.ofReply verdict) () (link.poll world).state
    (waited.value, waited.state) = match verdict reply with
      | .accept value => ((.ok value, ()), (link.poll world).state)
      | .abort reason => ((.error (.aborted reason), ()), (link.poll world).state)
      | .reject _ => (further.value, further.state) := by
  rw [awaitReply]
  split
  · rename_i reason failed
    simp [delivered] at failed
  · rename_i silent
    simp [delivered] at silent
  · rename_i message found
    obtain rfl : message = reply := by simpa [delivered] using found.symm
    cases judged : verdict message <;> simp [Judge.ofReply, judged]

/-- However many replies are discarded, waiting goes on where they are behind. -/
theorem awaitReply_hears {after : σ} (heard : link.Hears discarded world after)
    (rejected : ∀ other ∈ discarded, ∃ reason, verdict other = .reject reason) :
    let waited := link.awaitReply (Judge.ofReply verdict) () world
    let further := link.awaitReply (Judge.ofReply verdict) () after
    (waited.value, waited.state) = (further.value, further.state) := by
  induction heard with
  | nil => rfl
  | cons delivered rest step =>
    obtain ⟨reason, judged⟩ := rejected _ List.mem_cons_self
    have further := link.awaitReply_delivered verdict delivered
    rw [judged] at further
    exact further.trans (step fun other member => rejected other (List.mem_cons_of_mem _ member))

end Link

end Waiting

namespace Client

section Verdicts

variable {reply : Wire.Message}

/-- A reply is accepted as a description of the detector exactly when it is one. -/
theorem judgeDetectorInfo_accept_iff {info : DetectorInfo} :
    judgeDetectorInfo reply = .accept info ↔ Wire.decodeDetectorInfo reply = .ok info := by
  unfold judgeDetectorInfo
  split
  · simp [*]
  · simp [*]
  · split <;> simp [*]

/-- A reply that cannot be read is discarded if its error says that it belongs elsewhere. -/
theorem judgeDetectorInfo_of_error {reason : Wire.WireError}
    (failed : Wire.decodeDetectorInfo reply = .error reason) :
    judgeDetectorInfo reply =
      if reason.belongsElsewhere then .reject reason else .abort reason := by
  cases reason <;>
    simp [judgeDetectorInfo, failed, Wire.WireError.belongsElsewhere, Wire.WireError.isStale]

/-- A reply is discarded exactly when it belongs elsewhere. -/
theorem exists_judgeDetectorInfo_reject_iff :
    (∃ reason, judgeDetectorInfo reply = .reject reason) ↔ Wire.BelongsElsewhere reply := by
  cases decoded : Wire.decodeDetectorInfo reply with
  | ok info =>
    have describes : Wire.Describes reply := Wire.exists_decodeDetectorInfo_iff.mp ⟨info, decoded⟩
    rw [judgeDetectorInfo_accept_iff.mpr decoded]
    exact iff_of_false (by simp) fun elsewhere => elsewhere.2 describes.hasDetectorTag
  | error reason =>
    rw [judgeDetectorInfo_of_error decoded, ← Wire.belongsElsewhere_of_decodeDetectorInfo decoded]
    cases reason.belongsElsewhere <;> simp

/-- A client gives up at a reply that has the right tag and not the right form, or no frame. -/
theorem exists_judgeDetectorInfo_abort_iff :
    (∃ reason, judgeDetectorInfo reply = .abort reason) ↔ reply = [] ∨ Wire.Misdescribes reply := by
  cases decoded : Wire.decodeDetectorInfo reply with
  | ok info =>
    have describes : Wire.Describes reply := Wire.exists_decodeDetectorInfo_iff.mp ⟨info, decoded⟩
    rw [judgeDetectorInfo_accept_iff.mpr decoded]
    refine iff_of_false (by simp) ?_
    rintro (rfl | misdescribes)
    · exact nomatch describes
    · exact misdescribes.2 describes
  | error reason =>
    have unread : ¬ Wire.Describes reply := by
      rw [← Wire.exists_decodeDetectorInfo_iff, decoded]
      simp
    rw [judgeDetectorInfo_of_error decoded, Wire.Misdescribes, and_iff_left unread,
      ← Wire.not_belongsElsewhere_iff, ← Wire.belongsElsewhere_of_decodeDetectorInfo decoded]
    cases reason.belongsElsewhere <;> simp

end Verdicts

end Client

section Detector

variable {σ : Type}

/-- What a reply does to an exchange that waits for the detector, by the form of the reply. -/
structure Decided (reply : Wire.Message) (stage : Stage DetectorInfo) : Prop where
  accepted : ∀ info, stage = .ended (.ok info) ↔ Wire.decodeDetectorInfo reply = .ok info
  described : (∃ info, stage = .ended (.ok info)) ↔ Wire.Describes reply
  aborted : (∃ flaw, stage = .ended (.error (.malformed flaw))) ↔
    reply = [] ∨ Wire.Misdescribes reply
  waiting : stage = .waiting ↔ Wire.BelongsElsewhere reply
  /-- No reply uses up the attempts. -/
  unspent : ∀ count, stage ≠ .ended (.error (.retriesExhausted count))

/-- The verdict on a reply decides by its form. -/
theorem decided_judgeDetectorInfo (reply : Wire.Message) :
    Decided reply (Client.judgeDetectorInfo reply).stage where
  accepted info := by
    rw [← Client.judgeDetectorInfo_accept_iff]
    cases Client.judgeDetectorInfo reply <;> simp [Verdict.stage]
  described := by
    simp only [← Wire.exists_decodeDetectorInfo_iff, ← Client.judgeDetectorInfo_accept_iff]
    cases Client.judgeDetectorInfo reply <;> simp [Verdict.stage]
  aborted := by
    rw [← Client.exists_judgeDetectorInfo_abort_iff]
    cases Client.judgeDetectorInfo reply <;> simp [Verdict.stage]
  waiting := by
    rw [← Client.exists_judgeDetectorInfo_reject_iff]
    cases Client.judgeDetectorInfo reply <;> simp [Verdict.stage]
  unspent count := by
    cases Client.judgeDetectorInfo reply <;> simp [Verdict.stage]

/-- What waiting for the detector over a link comes to with a reply, by its form. -/
structure Awaited (link : Link σ) (reply : Wire.Message) (after : σ)
    (waited : Traced σ (Except AttemptFailure DetectorInfo × Unit)) : Prop where
  accepted : ∀ info, Wire.decodeDetectorInfo reply = .ok info →
    (waited.value, waited.state) = ((.ok info, ()), after)
  aborted : reply = [] ∨ Wire.Misdescribes reply → ∃ flaw,
    (waited.value, waited.state) = ((.error (.aborted flaw), ()), after)
  /-- It goes on where the reply has left it. -/
  discarded : Wire.BelongsElsewhere reply →
    let further := link.awaitReply (Judge.ofReply Client.judgeDetectorInfo) () after
    (waited.value, waited.state) = (further.value, further.state)

section Heard

variable {caller : Caller σ} {link : Link σ} {session : Session σ}
  {elsewhere : List Wire.Message} {reply : Wire.Message} {world middle : σ}
  (discarded : ∀ other ∈ elsewhere, Wire.BelongsElsewhere other)

include discarded

/-- Behind messages that belong elsewhere the verdict on the next one decides. -/
theorem Caller.run_detectorInfo (lost : Nat)
    (heard : caller.transport.Hears elsewhere session.world middle)
    (delivered : (caller.transport.poll middle).value = .ok (some reply)) :
    let next := caller.detectorInfo.run (elsewhere.length + 1) ⟨(), lost, .waiting⟩ session
    next.value = ⟨(), lost, (Client.judgeDetectorInfo reply).stage⟩ ∧
      next.state = { session with world := (caller.transport.poll middle).state } := by
  have judges : ∀ message, caller.detectorInfo.judge message () =
    (Client.judgeDetectorInfo message, ()) := fun _ => rfl
  have rejected : ∀ other ∈ elsewhere, ∃ reason,
      caller.detectorInfo.judge other () = (.reject reason, ()) := by
    intro other member
    obtain ⟨reason, judged⟩ :=
      Client.exists_judgeDetectorInfo_reject_iff.mpr (discarded other member)
    exact ⟨reason, by rw [judges, judged]⟩
  obtain ⟨value, state⟩ := caller.detectorInfo.run_hears lost session heard rejected
  have last := caller.detectorInfo.step_delivered lost { session with world := middle } delivered
    (judges reply)
  simp only [RetryLoop.run, Action.bind_value, Action.bind_state, value, state]
  exact last

/-- So it is while waiting over a link. -/
theorem Link.awaited_detectorInfo (heard : link.Hears elsewhere world middle)
    (delivered : (link.poll middle).value = .ok (some reply)) :
    Awaited link reply (link.poll middle).state
      (link.awaitReply (Judge.ofReply Client.judgeDetectorInfo) () world) := by
  have begins := link.awaitReply_hears Client.judgeDetectorInfo heard fun other member =>
    Client.exists_judgeDetectorInfo_reject_iff.mpr (discarded other member)
  have ends := begins.trans (link.awaitReply_delivered Client.judgeDetectorInfo delivered)
  constructor
  case accepted =>
    intro info decoded
    rw [Client.judgeDetectorInfo_accept_iff.mpr decoded] at ends
    exact ends
  case aborted =>
    intro misdescribes
    obtain ⟨flaw, judged⟩ := Client.exists_judgeDetectorInfo_abort_iff.mpr misdescribes
    rw [judged] at ends
    exact ⟨flaw, ends⟩
  case discarded =>
    intro elsewhere
    obtain ⟨reason, judged⟩ := Client.exists_judgeDetectorInfo_reject_iff.mpr elsewhere
    rw [judged] at ends
    exact ends

end Heard

/-- What becomes of the replies that a client hears while it waits for the detector. Those
that belong elsewhere are discarded, however many there are: they cost no attempt and not
the connection. The first other one ends the exchange: with the detector if it has the form
of a description, and for good if it has the tag of one and not the form, or no frame at
all. A client over a link waits in the same way. -/
theorem detector_replies_decided (caller : Caller σ) (session : Session σ) (lost : Nat)
    {elsewhere : List Wire.Message} {reply : Wire.Message} {middle : σ}
    (heard : caller.transport.Hears elsewhere session.world middle)
    (discarded : ∀ other ∈ elsewhere, Wire.BelongsElsewhere other)
    (delivered : (caller.transport.poll middle).value = .ok (some reply)) :
    let after := (caller.transport.poll middle).state
    let next := caller.detectorInfo.run (elsewhere.length + 1) ⟨(), lost, .waiting⟩ session
    Decided reply next.value.stage ∧ next.value.lost = lost ∧
    next.state = { session with world := after } ∧
    ∀ client : Client σ, client.caller = caller → Awaited client.link reply after
      (client.link.awaitReply (Judge.ofReply Client.judgeDetectorInfo) () session.world) := by
  intro after next
  obtain ⟨value, state⟩ : next.value = _ ∧ next.state = _ :=
    Caller.run_detectorInfo discarded lost heard delivered
  rw [value]
  refine ⟨decided_judgeDetectorInfo reply, rfl, state, ?_⟩
  rintro client rfl
  exact Link.awaited_detectorInfo discarded heard delivered

/-- A client that waits for the detector, and what it is going to hear. -/
def Script.awaitingDetector (queue : List Wire.Message) : Session Script where
  world := { queue := queue.map fun message => .ok (some message) }
  connected := true
  phase := .awaitingDetectorInfo

/-- An acknowledgement is discarded, and a bare tag behind it ends the exchange. -/
theorem detector_replies_decided_bareTag :
    let client : Client Script := ⟨Script.link "tcp://127.0.0.1:5554", 1, "run.root"⟩
    let session := Script.awaitingDetector [[Wire.Tag.ack.frame], [Wire.Tag.detectorInfo.frame]]
    let next := client.caller.detectorInfo.run 2 ⟨(), 0, .waiting⟩ session
    (∃ flaw, next.value.stage = .ended (.error (.malformed flaw))) ∧ next.value.lost = 0 ∧
      next.state = Script.awaitingDetector [] := by
  intro client session next
  have misdescribes : Wire.Misdescribes [Wire.Tag.detectorInfo.frame] :=
    ⟨⟨[], rfl⟩, fun ⟨_, _, _, _, _, whole, _⟩ => by simp at whole⟩
  have elsewhere : Wire.BelongsElsewhere [Wire.Tag.ack.frame] := by
    refine ⟨by simp, fun ⟨rest, whole⟩ => ?_⟩
    exact absurd (List.cons.inj whole).1 (by decide)
  have heard : client.caller.transport.Hears [[Wire.Tag.ack.frame]] session.world
    (client.caller.transport.poll session.world).state := .cons rfl .nil
  have delivered : (client.caller.transport.poll
    (client.caller.transport.poll session.world).state).value =
      .ok (some [Wire.Tag.detectorInfo.frame]) := rfl
  obtain ⟨decided, kept, left, -⟩ := detector_replies_decided client.caller session 0 heard
    (by simpa using elsewhere) delivered
  exact ⟨decided.aborted.mpr (.inr misdescribes), kept, left⟩

/-- A message without frames, which has no tag at all, ends the exchange too. -/
theorem frameless_reply_malformed :
    let client : Client Script := ⟨Script.link "tcp://127.0.0.1:5554", 1, "run.root"⟩
    let session := Script.awaitingDetector [[]]
    let next := client.caller.detectorInfo.step ⟨(), 0, .waiting⟩ session
    (client.caller.transport.poll session.world).value = .ok (some []) ∧
      ¬ Wire.HasDetectorTag [] ∧
      next.value.stage = .ended (.error (.malformed (.incompleteFrame 1 0))) := by
  refine ⟨rfl, ?_, rfl⟩
  rintro ⟨rest, whole⟩
  exact nomatch whole

end Detector

end PhotonFerry
