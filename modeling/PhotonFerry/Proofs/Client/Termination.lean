import PhotonFerry.Proofs.Client.RetryLoop
/-!
# Exchanges that end

Over an arbitrary transport an exchange may discard replies for ever. It ends if
from every state in which it waits only so many messages arrive in a row. The
argument is on the attempts that are left and, within one of them, on the
messages that can still arrive.
-/

namespace PhotonFerry

namespace Transport

variable {σ : Type} (transport : Transport σ)

/-- The world after waiting so many times in a row. -/
def polled : (polls : Nat) → σ → σ
  | 0, world => world
  | polls + 1, world => polled polls (transport.poll world).state

/-- Only so many messages arrive in a row. -/
def RunsDry (world : σ) : Prop :=
  ∃ polls, ∀ message,
    (transport.poll (transport.polled polls world)).value ≠ .ok (some message)

end Transport

namespace RetryLoop

variable {σ τ α : Type} (loop : RetryLoop σ τ α)

/-- The exchange comes to an end. -/
def Ends (standing : Standing τ α) (session : Session σ) : Prop :=
  ∃ steps result, (loop.run steps standing session).value.stage = .ended result

/-- Whenever the exchange waits, only so many messages arrive in a row. -/
def Dry (standing : Standing τ α) (session : Session σ) : Prop :=
  ∀ steps, (loop.run steps standing session).value.stage = .waiting →
    loop.transport.RunsDry (loop.run steps standing session).state.world

/-- The exchange ends from the attempt that would follow the present one. -/
def NextEnds (lost : Nat) : Prop :=
  ∀ memory (session : Session σ), lost + 1 < loop.attempts →
    loop.Dry ⟨memory, lost + 1, .opening⟩ session → loop.Ends ⟨memory, lost + 1, .opening⟩ session

variable {loop} {memory : τ} {lost : Nat} {standing : Standing τ α} {session : Session σ}

/-- An exchange ends when it does so after a step. -/
theorem Ends.of_step
    (later : loop.Ends (loop.step standing session).value (loop.step standing session).state) :
    loop.Ends standing session := by
  obtain ⟨steps, result, ended⟩ := later
  refine ⟨1 + steps, result, ?_⟩
  rw [run_add]
  exact ended

theorem Dry.step (dry : loop.Dry standing session) :
    loop.Dry (loop.step standing session).value (loop.step standing session).state := by
  intro steps waiting
  have later := dry (1 + steps)
  rw [run_add] at later
  exact later waiting

/-- An exchange that loses an attempt ends if the next one does. -/
theorem ends_lose {reason : PeerError} (next : loop.NextEnds lost)
    (dry : loop.Dry (loop.lose memory lost reason session).value
      (loop.lose memory lost reason session).state) :
    loop.Ends (loop.lose memory lost reason session).value
      (loop.lose memory lost reason session).state := by
  by_cases left : lost + 1 < loop.attempts
  · rw [loop.lose_again left] at dry ⊢
    exact next memory _ left dry
  · rw [loop.lose_last left]
    exact ⟨0, _, rfl⟩

/-- An exchange that waits ends if it does with whatever message arrives. -/
theorem ends_poll (next : loop.NextEnds lost) (dry : loop.Dry ⟨memory, lost, .waiting⟩ session)
    (heard : ∀ reply, (loop.transport.poll session.world).value = .ok (some reply) →
      let heard := loop.hear ⟨memory, lost, .waiting⟩ reply
        { session with world := (loop.transport.poll session.world).state }
      loop.Dry heard.value heard.state → loop.Ends heard.value heard.state) :
    loop.Ends ⟨memory, lost, .waiting⟩ session := by
  refine Ends.of_step ?_
  have later := dry.step
  simp only [step, Action.bind_apply, Session.outside_apply, Traced.andThen] at later ⊢
  cases answer : (loop.transport.poll session.world).value with
  | error reason =>
    simp only [answer] at later ⊢
    exact ends_lose next later
  | ok message =>
    cases message with
    | none =>
      simp only [answer] at later ⊢
      exact ends_lose next later
    | some reply =>
      simp only [answer] at later ⊢
      exact heard reply answer later

/-- Waiting ends when no more messages arrive, if not before. -/
theorem ends_waiting (next : loop.NextEnds lost)
    (dry : loop.Dry ⟨memory, lost, .waiting⟩ session) (polls : Nat)
    (quiet : ∀ message, (loop.transport.poll (loop.transport.polled polls session.world)).value ≠
      .ok (some message)) :
    loop.Ends ⟨memory, lost, .waiting⟩ session := by
  induction polls generalizing memory session with
  | zero => exact ends_poll next dry fun reply arrived => absurd arrived (quiet reply)
  | succ polls further =>
    refine ends_poll next dry fun reply arrived => ?_
    simp only [hear]
    obtain ⟨verdict, after⟩ := loop.judge reply memory
    cases verdict with
    | accept value => exact fun _ => ⟨0, _, rfl⟩
    | abort reason => exact fun _ => ⟨0, _, rfl⟩
    | reject reason => exact fun later => further later quiet

/-- An exchange ends if it does with the attempts behind the present one. -/
theorem ends_attempt (next : loop.NextEnds lost)
    (dry : loop.Dry ⟨memory, lost, .opening⟩ session) :
    loop.Ends ⟨memory, lost, .opening⟩ session := by
  refine Ends.of_step ?_
  have opened := dry.step
  simp only [step, Action.bind_apply, Traced.andThen] at opened ⊢
  cases connecting : (loop.transport.ensureConnected session).value with
  | error reason =>
    simp only [connecting] at opened ⊢
    exact ends_lose next opened
  | ok =>
    simp only [connecting] at opened ⊢
    refine Ends.of_step ?_
    have sent := Dry.step opened
    simp only [step, Action.pure_apply, Action.bind_apply, Traced.andThen] at sent ⊢
    cases sending : (loop.transport.transmit loop.request
        (loop.transport.ensureConnected session).state).value with
    | error reason =>
      simp only [sending] at sent ⊢
      exact ends_lose next sent
    | ok =>
      simp only [sending] at sent ⊢
      obtain ⟨polls, quiet⟩ := sent 0 rfl
      exact ends_waiting next sent polls quiet

/-- An exchange with so many attempts behind the present one ends. -/
theorem ends_opening (left : Nat) (counted : lost + left + 1 = loop.attempts)
    (dry : loop.Dry ⟨memory, lost, .opening⟩ session) :
    loop.Ends ⟨memory, lost, .opening⟩ session := by
  induction left generalizing memory lost session with
  | zero => exact ends_attempt (fun _ _ another => by omega) dry
  | succ left step =>
    exact ends_attempt (fun memory session _ later => step (by omega) later) dry

/-- An exchange ends if on each connection only so many messages arrive. -/
theorem ends_of_dry (dry : loop.Dry (.start memory) session) :
    loop.Ends (.start memory) session := by
  have positive := loop.attempts_pos
  exact ends_opening (loop.attempts - 1) (by omega) dry

end RetryLoop

end PhotonFerry
