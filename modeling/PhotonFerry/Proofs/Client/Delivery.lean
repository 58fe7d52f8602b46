import PhotonFerry.Proofs.Client.Operations
import PhotonFerry.Proofs.Wire.Reply
/-!
# Transports that deliver

What a transport does with a request can be told without the client: attempts that
come to nothing, each at its connection, its request or its replies, and then one
that brings stale messages first and the right one in the end. A retry loop that has
attempts left for all of them ends with the right reply.
-/

namespace PhotonFerry

section Transports

variable {σ : Type} (transport : Transport σ) (request : Wire.Message)
  (Stale : Wire.Message → Prop) (reply : Wire.Message)

/-- A connection is there, held or newly opened. -/
inductive Opens : (held : Bool) → σ → σ → Prop where
  | held {world} : Opens true world world
  | fresh {world} (opened : (transport.connect world).value = .ok ()) :
      Opens false world (transport.connect world).state

/-- Stale messages are delivered, and then the right one. -/
inductive Arrives : σ → σ → Prop where
  | now {world} (delivered : (transport.poll world).value = .ok (some reply)) :
      Arrives world (transport.poll world).state
  | later {world after other} (delivered : (transport.poll world).value = .ok (some other))
      (stale : Stale other) (rest : Arrives (transport.poll world).state after) :
      Arrives world after

/-- Stale messages are delivered, and then waiting comes to nothing. -/
inductive FallsSilent : σ → σ → Prop where
  | error {world reason} (failed : (transport.poll world).value = .error reason) :
      FallsSilent world (transport.poll world).state
  | silence {world} (silent : (transport.poll world).value = .ok none) :
      FallsSilent world (transport.poll world).state
  | later {world after other} (delivered : (transport.poll world).value = .ok (some other))
      (stale : Stale other) (rest : FallsSilent (transport.poll world).state after) :
      FallsSilent world after

/-- An attempt that comes to nothing. -/
inductive Loses : (held : Bool) → σ → σ → Prop where
  | connect {world reason} (failed : (transport.connect world).value = .error reason) :
      Loses false world (transport.connect world).state
  | send {held world middle reason} (opens : Opens transport held world middle)
      (failed : (transport.send request middle).value = .error reason) :
      Loses held world (transport.send request middle).state
  | wait {held world middle after} (opens : Opens transport held world middle)
      (sent : (transport.send request middle).value = .ok ())
      (silent : FallsSilent transport Stale (transport.send request middle).state after) :
      Loses held world after

/-- The reply is delivered after at most so many attempts that come to nothing. -/
inductive Delivers : (spare : Nat) → (held : Bool) → σ → σ → Prop where
  | now {spare held world middle after} (opens : Opens transport held world middle)
      (sent : (transport.send request middle).value = .ok ())
      (arrives : Arrives transport Stale reply (transport.send request middle).state after) :
      Delivers spare held world after
  | again {spare held world middle after}
      (loses : Loses transport request Stale held world middle)
      (delivers : Delivers spare false middle after) : Delivers (spare + 1) held world after

end Transports

namespace RetryLoop

variable {σ τ α : Type} (loop : RetryLoop σ τ α)

/-- From a standing in a session the exchange comes to another one, with the
connection and the world as given. -/
def Leads (first : Standing τ α) (session : Session σ) (second : Standing τ α) (held : Bool)
    (world : σ) : Prop :=
  ∃ steps, (loop.run steps first session).value = second ∧
    (loop.run steps first session).state.connected = held ∧
    (loop.run steps first session).state.world = world

variable {loop} {first second third : Standing τ α} {session : Session σ} {held later : Bool}
  {world after : σ}

theorem Leads.trans (head : loop.Leads first session second held world)
    (tail : ∀ middle : Session σ, middle.connected = held → middle.world = world →
      loop.Leads second middle third later after) : loop.Leads first session third later after := by
  obtain ⟨steps, reached, connected, here⟩ := head
  obtain ⟨further, ended⟩ := tail _ connected here
  refine ⟨steps + further, ?_⟩
  rw [run_add]
  simp only [Action.bind_value, Action.bind_state, reached]
  exact ended

section Steps

variable {memory : τ} {lost : Nat}

theorem leads_opens (opens : Opens loop.transport session.connected session.world after) :
    loop.Leads ⟨memory, lost, .opening⟩ session ⟨memory, lost, .sending⟩ true after := by
  refine ⟨1, ?_⟩
  rw [run_one]
  generalize connected : session.connected = held at opens
  generalize here : session.world = world at opens
  cases opens with
  | held => simp [step, Transport.ensureConnected_held, connected, here]
  | fresh opened =>
    subst here
    simp [step, Action.bind_apply, Traced.andThen,
      Transport.ensureConnected_opened connected opened]

theorem leads_sent (sent : (loop.transport.send loop.request session.world).value = .ok ()) :
    loop.Leads ⟨memory, lost, .sending⟩ session ⟨memory, lost, .waiting⟩ session.connected
      (loop.transport.send loop.request session.world).state := by
  refine ⟨1, ?_⟩
  simp [step, Action.bind_apply, Traced.andThen, Transport.transmit_sent sent]

/-- A stale message is discarded. -/
theorem leads_stale {other : Wire.Message} {reason : Wire.WireError}
    (delivered : (loop.transport.poll session.world).value = .ok (some other))
    (rejected : loop.judge other memory = (.reject reason, memory)) :
    loop.Leads ⟨memory, lost, .waiting⟩ session ⟨memory, lost, .waiting⟩ session.connected
      (loop.transport.poll session.world).state := by
  obtain ⟨value, state⟩ := loop.step_delivered lost session delivered rejected
  exact ⟨1, value, by rw [run_one, state], by rw [run_one, state]⟩

/-- The right reply ends the exchange. -/
theorem leads_reply {reply : Wire.Message} {value : α} {final : τ}
    (delivered : (loop.transport.poll session.world).value = .ok (some reply))
    (accepted : loop.judge reply memory = (.accept value, final)) :
    loop.Leads ⟨memory, lost, .waiting⟩ session ⟨final, lost, .ended (.ok value)⟩
      session.connected (loop.transport.poll session.world).state := by
  obtain ⟨value, state⟩ := loop.step_delivered lost session delivered accepted
  exact ⟨1, value, by rw [run_one, state], by rw [run_one, state]⟩

section Losing

variable (left : lost + 1 < loop.attempts)

include left

/-- With an attempt left, a failure leads to the next one. -/
theorem leads_refused {reason : PeerError} (free : session.connected = false)
    (failed : (loop.transport.connect session.world).value = .error reason) :
    loop.Leads ⟨memory, lost, .opening⟩ session ⟨memory, lost + 1, .opening⟩ false
      (loop.transport.connect session.world).state := by
  refine ⟨1, ?_⟩
  simp [step, Action.bind_apply, Traced.andThen, Transport.ensureConnected_failed free failed,
    loop.lose_again left]

theorem leads_unsent {reason : PeerError}
    (failed : (loop.transport.send loop.request session.world).value = .error reason) :
    loop.Leads ⟨memory, lost, .sending⟩ session ⟨memory, lost + 1, .opening⟩ false
      (loop.transport.send loop.request session.world).state := by
  refine ⟨1, ?_⟩
  simp [step, Action.bind_apply, Traced.andThen, Transport.transmit_failed failed,
    loop.lose_again left]

theorem leads_unheard {message : Except PeerError (Option Wire.Message)}
    (heard : (loop.transport.poll session.world).value = message)
    (nothing : ∀ reply, message ≠ .ok (some reply)) :
    loop.Leads ⟨memory, lost, .waiting⟩ session ⟨memory, lost + 1, .opening⟩ false
      (loop.transport.poll session.world).state := by
  refine ⟨1, ?_⟩
  rcases message with reason | (_ | reply)
  · simp [step, Action.bind_apply, Traced.andThen, heard, loop.lose_again left]
  · simp [step, Action.bind_apply, Traced.andThen, heard, loop.lose_again left]
  · exact absurd rfl (nothing reply)

end Losing

end Steps

section Deliveries

variable {Stale : Wire.Message → Prop} {reply : Wire.Message} {memory final : τ} {value : α}
  {lost spare : Nat}

variable (discards : ∀ other, Stale other →
  ∃ reason, loop.judge other memory = (.reject reason, memory))

include discards

/-- Behind stale messages the right one ends the exchange. -/
theorem leads_arrives (arrives : Arrives loop.transport Stale reply world after)
    (accepts : loop.judge reply memory = (.accept value, final)) (here : session.world = world) :
    loop.Leads ⟨memory, lost, .waiting⟩ session ⟨final, lost, .ended (.ok value)⟩
      session.connected after := by
  induction arrives generalizing session with
  | now delivered =>
    subst here
    exact leads_reply delivered accepts
  | later delivered stale rest step =>
    subst here
    obtain ⟨reason, rejected⟩ := discards _ stale
    refine (leads_stale delivered rejected).trans fun middle connected there => ?_
    rw [← connected]
    exact step there

/-- Behind stale messages waiting comes to nothing, and the next attempt follows. -/
theorem leads_fallsSilent (silent : FallsSilent loop.transport Stale world after)
    (left : lost + 1 < loop.attempts) (here : session.world = world) :
    loop.Leads ⟨memory, lost, .waiting⟩ session ⟨memory, lost + 1, .opening⟩ false after := by
  induction silent generalizing session with
  | error failed =>
    subst here
    exact leads_unheard left failed (by simp)
  | silence silent =>
    subst here
    exact leads_unheard left silent (by simp)
  | later delivered stale rest step =>
    subst here
    obtain ⟨reason, rejected⟩ := discards _ stale
    exact (leads_stale delivered rejected).trans fun middle _ there => step there

/-- An attempt that comes to nothing is followed by the next one. -/
theorem leads_loses (loses : Loses loop.transport loop.request Stale held world after)
    (left : lost + 1 < loop.attempts) (connected : session.connected = held)
    (here : session.world = world) :
    loop.Leads ⟨memory, lost, .opening⟩ session ⟨memory, lost + 1, .opening⟩ false after := by
  cases loses with
  | connect failed =>
    subst here
    exact leads_refused left connected failed
  | send opens failed =>
    subst connected here
    refine (leads_opens opens).trans fun middle _ there => ?_
    subst there
    exact leads_unsent left failed
  | wait opens sent silent =>
    subst connected here
    refine (leads_opens opens).trans fun middle _ there => ?_
    subst there
    exact (leads_sent sent).trans fun waiting _ there =>
      leads_fallsSilent discards silent left there

/-- A reply that is delivered within the attempts that are left ends the exchange. -/
theorem leads_delivers
    (delivers : Delivers loop.transport loop.request Stale reply spare held world after)
    (accepts : loop.judge reply memory = (.accept value, final))
    (left : lost + spare < loop.attempts) (connected : session.connected = held)
    (here : session.world = world) :
    ∃ count, loop.Leads ⟨memory, lost, .opening⟩ session ⟨final, count, .ended (.ok value)⟩ true
      after := by
  induction delivers generalizing lost session with
  | now opens sent arrives =>
    subst connected here
    refine ⟨lost, (leads_opens opens).trans fun middle holds there => ?_⟩
    subst there
    refine (leads_sent sent).trans fun waiting keeps there => ?_
    rw [← holds, ← keeps]
    exact leads_arrives discards arrives accepts there
  | @again spare _ _ _ _ loses delivers step =>
    have next : lost + 1 < loop.attempts := by omega
    have later : lost + 1 + spare < loop.attempts := by omega
    obtain ⟨steps, reached, closed, there⟩ := leads_loses discards loses next connected here
    obtain ⟨count, further, ended⟩ := step later closed there
    refine ⟨count, steps + further, ?_⟩
    rw [run_add]
    simp only [Action.bind_value, Action.bind_state, reached]
    exact ended

/-- So the exchange ends with the reply, on the connection that brought it. -/
theorem exists_endsIn_of_delivers
    (delivers : Delivers loop.transport loop.request Stale reply (loop.attempts - 1)
      session.connected session.world after)
    (accepts : loop.judge reply memory = (.accept value, final)) :
    ∃ outcome, loop.EndsIn memory session outcome ∧ outcome.value = (.ok value, final) ∧
      outcome.state.connected = true ∧ outcome.state.unwatched.world = after := by
  have within : 0 + (loop.attempts - 1) < loop.attempts := by
    have positive := loop.attempts_pos
    omega
  obtain ⟨count, steps, ended, connected, there⟩ :=
    leads_delivers discards delivers accepts within rfl rfl
  have mirrored : (loop.watched.run steps (.start memory) session.watched).unwatched =
      loop.run steps (.start memory) session :=
    loop.mirrors_run steps (.start memory) session.watched
  rw [Standing.start] at mirrored
  rw [← mirrored] at ended connected there
  let outcome : Traced (Session (Watched σ)) (Except PeerError α × τ) :=
    ⟨(.ok value, final), (loop.watched.run steps (.start memory) session.watched).state,
      (loop.watched.run steps (.start memory) session.watched).journal⟩
  exact ⟨outcome, ⟨steps, count, Traced.ext ended rfl rfl⟩, rfl, connected, there⟩

end Deliveries

end RetryLoop

namespace Caller

variable {σ : Type} {caller : Caller σ} {photons : PhotonBatch} {batch : PhotoelectronBatch}
  {session : Session σ} {after : σ}

/-- A reply that is refused for an event, whatever the receiving batch holds. -/
def Refused (event : UInt32) (reply : Wire.Message) : Prop :=
  ∀ out, ∃ reason, Wire.decodeSimReply reply event out = (.error reason, out)

/-- The photons are answered with the batch before the attempts are used up. -/
def Delivered (caller : Caller σ) (photons : PhotonBatch) (batch : PhotoelectronBatch) :
    (held : Bool) → σ → σ → Prop :=
  Delivers caller.transport (Wire.encodePhotons photons) (Refused photons.event)
    (Wire.encodeSimComplete batch) (attemptsUnder caller.maxRetries - 1)

/-- A client that is ready hands out the batch that is delivered, and stays ready. -/
theorem exists_performs (ready : session.phase = .ready) (aligned : batch.Aligned)
    (own : batch.event = photons.event)
    (delivered : caller.Delivered photons batch session.connected session.world after)
    (out : PhotoelectronBatch) :
    ∃ calls later, Performs caller session (.propagate photons out)
        ⟨.propagated (.complete, batch), none, calls, later⟩ ∧
      later.phase = .ready ∧ later.connected = true ∧ later.world = after := by
  have discards : ∀ other, Refused photons.event other →
      ∃ reason, Client.judgeSimReply photons.event other out = (.reject reason, out) := by
    intro other refused
    obtain ⟨reason, decoded⟩ := refused out
    exact ⟨reason, by rw [Client.judgeSimReply, decoded]⟩
  have accepts : Client.judgeSimReply photons.event (Wire.encodeSimComplete batch) out =
      (.accept .complete, batch) := by
    rw [Client.judgeSimReply_accept_iff, Wire.readSimReply_complete_iff]
    exact ⟨aligned, own, none, by simp, by rw [Wire.encodeSimComplete_eq, own]⟩
  obtain ⟨outcome, shipped, answered, connected, there⟩ :
      ∃ outcome, (caller.photonData photons).EndsIn out (session.inPhase .awaitingReply) outcome ∧
        outcome.value = (.ok .complete, batch) ∧ outcome.state.connected = true ∧
        outcome.state.unwatched.world = after :=
    RetryLoop.exists_endsIn_of_delivers discards delivered accepts
  have handed : Client.received photons.event outcome.value = (.complete, batch) := by
    rw [answered]
    rfl
  have performed := Performs.propagate ready shipped
  rw [handed] at performed
  exact ⟨_, _, performed, rfl, connected, there⟩

end Caller

end PhotonFerry
