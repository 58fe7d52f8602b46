import PhotonFerry.Proofs.Client.RetryLoop
/-!
# Judges that look at the reply alone

A judge may be handed a memory that holds anything. If neither its verdict nor
what it remembers of an accepted reply depends on that memory, no exchange does:
two runs that begin with different memories ask the same, leave the same journal
and come to the same result.
-/

namespace PhotonFerry

/-- The verdict, and what is remembered of an accepted reply, depend on the reply alone. -/
def Judge.Forgetful {τ α : Type} (judge : Judge τ α) : Prop :=
  ∀ reply first second, (judge reply first).1 = (judge reply second).1 ∧
    ∀ value, (judge reply first).1 = .accept value → (judge reply first).2 = (judge reply second).2

/-- Two standings differ at most in what is remembered while no reply was accepted. -/
structure Standing.Alike {τ α : Type} (first second : Standing τ α) : Prop where
  lost : first.lost = second.lost
  stage : first.stage = second.stage
  memory : ∀ value, first.stage = .ended (.ok value) → first.memory = second.memory

namespace RetryLoop

variable {σ τ α : Type} {loop : RetryLoop σ τ α}

/-- Two results differ at most in what is remembered while no reply was accepted. -/
def Alike (first second : Traced (Session σ) (Standing τ α)) : Prop :=
  first.value.Alike second.value ∧ first.state = second.state ∧ first.journal = second.journal

theorem alike_lose (first second : τ) (lost : Nat) (reason : PeerError) (session : Session σ) :
    Alike (loop.lose first lost reason session) (loop.lose second lost reason session) := by
  by_cases left : lost + 1 < loop.attempts
  · rw [loop.lose_again left, loop.lose_again left]
    exact ⟨⟨rfl, rfl, fun _ ended => nomatch ended⟩, rfl, rfl⟩
  · rw [loop.lose_last left, loop.lose_last left]
    exact ⟨⟨rfl, rfl, fun _ ended => nomatch ended⟩, rfl, rfl⟩

theorem alike_hear (forgetful : loop.judge.Forgetful) (first second : τ) (lost : Nat)
    (reply : Wire.Message) (session : Session σ) :
    Alike (loop.hear ⟨first, lost, .waiting⟩ reply session)
      (loop.hear ⟨second, lost, .waiting⟩ reply session) := by
  have agreed := forgetful reply first second
  unfold hear
  generalize loop.judge reply first = judged, loop.judge reply second = other at agreed ⊢
  obtain ⟨verdict, memory⟩ := judged
  obtain ⟨_, after⟩ := other
  obtain ⟨rfl, remembered⟩ := agreed
  cases verdict with
  | accept value => exact ⟨⟨rfl, rfl, fun _ _ => remembered value rfl⟩, rfl, rfl⟩
  | abort reason => exact ⟨⟨rfl, rfl, fun _ ended => nomatch ended⟩, rfl, rfl⟩
  | reject reason => exact ⟨⟨rfl, rfl, fun _ ended => nomatch ended⟩, rfl, rfl⟩

/-- Alike standings stay so when what follows an answer is alike. -/
theorem alike_bind {β : Type} (action : Action (Session σ) β)
    {first second : β → Action (Session σ) (Standing τ α)}
    (next : ∀ answer session, Alike (first answer session) (second answer session))
    (session : Session σ) : Alike ((action >>= first) session) ((action >>= second) session) := by
  obtain ⟨value, state, journal⟩ := next (action session).value (action session).state
  exact ⟨value, state, congrArg ((action session).journal ++ ·) journal⟩

theorem alike_step (forgetful : loop.judge.Forgetful) {first second : Standing τ α}
    (alike : first.Alike second) (session : Session σ) :
    Alike (loop.step first session) (loop.step second session) := by
  obtain ⟨memory, lost, stage⟩ := first
  obtain ⟨other, _, _⟩ := second
  obtain ⟨rfl, rfl, remembered⟩ := alike
  cases stage with
  | opening =>
    refine alike_bind _ (fun answer after => ?_) session
    cases answer with
    | error reason => exact alike_lose memory other lost reason after
    | ok => exact ⟨⟨rfl, rfl, fun _ ended => nomatch ended⟩, rfl, rfl⟩
  | sending =>
    refine alike_bind _ (fun answer after => ?_) session
    cases answer with
    | error reason => exact alike_lose memory other lost reason after
    | ok => exact ⟨⟨rfl, rfl, fun _ ended => nomatch ended⟩, rfl, rfl⟩
  | waiting =>
    refine alike_bind _ (fun answer after => ?_) session
    rcases answer with reason | (_ | reply)
    · exact alike_lose memory other lost reason after
    · exact alike_lose memory other lost .timeout after
    · exact alike_hear forgetful memory other lost reply after
  | ended result => exact ⟨⟨rfl, rfl, remembered⟩, rfl, rfl⟩

/-- Runs stay alike. -/
theorem alike_run (forgetful : loop.judge.Forgetful) (steps : Nat) {first second : Standing τ α}
    (alike : first.Alike second) (session : Session σ) :
    Alike (loop.run steps first session) (loop.run steps second session) := by
  induction steps with
  | zero => exact ⟨alike, rfl, rfl⟩
  | succ steps step =>
    obtain ⟨value, state, journal⟩ := step
    have last := alike_step forgetful value (loop.run steps first session).state
    simp only [run, Action.bind_apply, Traced.andThen, ← state]
    exact ⟨last.1, last.2.1, by rw [journal, last.2.2]⟩

/-- An exchange that ends with one memory ends in the same way with any other, and
an accepted reply is remembered in the same way. -/
theorem Settles.forgets (forgetful : loop.judge.Forgetful) {first : τ} {session : Session σ}
    {outcome : Traced (Session σ) (Except PeerError α × τ)}
    (settled : loop.Settles (.start first) session outcome) (second : τ) :
    ∃ memory, loop.Settles (.start second) session
        ⟨(outcome.value.1, memory), outcome.state, outcome.journal⟩ ∧
      ∀ value, outcome.value.1 = .ok value → outcome.value.2 = memory := by
  obtain ⟨steps, lost, reached⟩ := settled
  have begun : (Standing.start (α := α) first).Alike (.start second) :=
    ⟨rfl, rfl, fun _ ended => nomatch ended⟩
  have alike := alike_run forgetful steps begun session
  rw [reached] at alike
  -- The other run has ended after the same steps.
  rcases ended : loop.run steps (.start second) session with
    ⟨⟨memory, spent, stage⟩, after, journal⟩
  rw [ended] at alike
  obtain ⟨⟨counted, result, remembered⟩, state, noted⟩ := alike
  simp only at counted result remembered state noted
  subst counted result state noted
  exact ⟨memory, ⟨steps, lost, ended⟩,
    fun value accepted => remembered value (congrArg Stage.ended accepted)⟩

end RetryLoop

/-- What the memory of a forgetful judge held before an exchange does not matter. -/
theorem Client.exchange_forgets {σ τ α : Type} (client : Client σ) (what : String)
    (request : Wire.Message) {judge : Judge τ α} (forgetful : judge.Forgetful) (first second : τ)
    (session : Session σ) :
    let one := client.exchange what request judge first session
    let other := client.exchange what request judge second session
    one.value.1 = other.value.1 ∧ one.state = other.state ∧ one.journal = other.journal ∧
      ∀ value, one.value.1 = .ok value → one.value.2 = other.value.2 := by
  intro one other
  obtain ⟨memory, settled, remembered⟩ :=
    (client.settles_exchange what request judge first session).forgets forgetful second
  have same : other = ⟨(one.value.1, memory), one.state, one.journal⟩ :=
    (client.settles_exchange what request judge second session).unique settled
  rw [same]
  exact ⟨rfl, rfl, rfl, remembered⟩

end PhotonFerry
