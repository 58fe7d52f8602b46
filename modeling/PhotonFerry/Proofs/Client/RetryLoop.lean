import PhotonFerry.Client.Exchange
/-!
# The retry loop step by step

An exchange is a loop within a loop, and over an arbitrary transport it need not
end. `RetryLoop` is the same work one question to the transport at a time: `step`
asks one question and says where the exchange stands then, `run` takes so many
steps. It asks no law of the transport. Over a link, where waiting comes to an
end, an exchange is what some run settles to.
-/

namespace PhotonFerry

/-- An exchange to be made: over what, how often, with which request, and who
judges the replies. -/
structure RetryLoop (σ τ α : Type) where
  transport : Transport σ
  maxRetries : UInt32
  what : String
  request : Wire.Message
  judge : Judge τ α

/-- What an exchange does next. -/
inductive Stage (α : Type) where
  /-- Hold a connection. -/
  | opening
  /-- Send the request. -/
  | sending
  /-- Wait for a reply. -/
  | waiting
  /-- Nothing; the exchange has its result. -/
  | ended (result : Except PeerError α)

/-- Where a verdict leaves an exchange that waits. -/
def Verdict.stage {α : Type} : Verdict α → Stage α
  | accept value => .ended (.ok value)
  | reject _ => .waiting
  | abort reason => .ended (.error (.malformed reason))

/-- Where an exchange stands. -/
structure Standing (τ α : Type) where
  /-- What the judge remembers. -/
  memory : τ
  /-- The number of attempts that are lost. -/
  lost : Nat
  stage : Stage α

/-- An exchange that has not begun. -/
def Standing.start {τ α : Type} (memory : τ) : Standing τ α :=
  ⟨memory, 0, .opening⟩

/-- The exchange that a client makes. -/
def Client.retryLoop {σ τ α : Type} (client : Client σ) (what : String) (request : Wire.Message)
    (judge : Judge τ α) : RetryLoop σ τ α :=
  ⟨client.link.toTransport, client.maxRetries, what, request, judge⟩

namespace RetryLoop

variable {σ τ α : Type} (loop : RetryLoop σ τ α)

/-- The number of attempts. -/
def attempts : Nat :=
  attemptsUnder loop.maxRetries

/-- There is at least one attempt. -/
theorem attempts_pos : 0 < loop.attempts := by
  simp only [attempts, attemptsUnder]
  omega

/-- Give up the connection and with it an attempt, when `lost` are lost already. -/
def lose (memory : τ) (lost : Nat) (reason : PeerError) :
    Action (Session σ) (Standing τ α) := do
  Session.disconnect
  if lost + 1 < loop.attempts then
    Action.warn .client (lossText loop.what (lost + 1) loop.attempts reason)
    return ⟨memory, lost + 1, .opening⟩
  else return ⟨memory, lost + 1, .ended (.error (.retriesExhausted loop.attempts))⟩

theorem lose_again {memory : τ} {lost : Nat} {reason : PeerError} {session : Session σ}
    (left : lost + 1 < loop.attempts) : loop.lose memory lost reason session =
      ⟨⟨memory, lost + 1, .opening⟩, { session with connected := false },
        [⟨.warn, .client, lossText loop.what (lost + 1) loop.attempts reason⟩]⟩ := by
  simp only [lose, left, if_true]
  rfl

theorem lose_last {memory : τ} {lost : Nat} {reason : PeerError} {session : Session σ}
    (last : ¬ lost + 1 < loop.attempts) : loop.lose memory lost reason session =
      ⟨⟨memory, lost + 1, .ended (.error (.retriesExhausted loop.attempts))⟩,
        { session with connected := false }, []⟩ := by
  simp only [lose, last, if_false]
  rfl

/-- Have a reply judged. -/
def hear (standing : Standing τ α) (reply : Wire.Message) : Action (Session σ) (Standing τ α) :=
  match loop.judge reply standing.memory with
  | (.accept value, memory) => return { standing with memory, stage := .ended (.ok value) }
  | (.abort reason, memory) =>
    return { standing with memory, stage := .ended (.error (.malformed reason)) }
  | (.reject reason, memory) => do
    Action.info .client (discardText reason)
    return { standing with memory }

/-- Ask the transport one question. -/
def step (standing : Standing τ α) : Action (Session σ) (Standing τ α) :=
  match standing.stage with
  | .opening => do
    match ← loop.transport.ensureConnected with
    | .error reason => loop.lose standing.memory standing.lost reason
    | .ok () => return { standing with stage := .sending }
  | .sending => do
    match ← loop.transport.transmit loop.request with
    | .error reason => loop.lose standing.memory standing.lost reason
    | .ok () => return { standing with stage := .waiting }
  | .waiting => do
    match ← Session.outside loop.transport.poll with
    | .error reason => loop.lose standing.memory standing.lost reason
    | .ok none => loop.lose standing.memory standing.lost .timeout
    | .ok (some reply) => loop.hear standing reply
  | .ended _ => return standing

/-- A message that is delivered costs no attempt; its verdict decides where the exchange stands. -/
theorem step_delivered (lost : Nat) (session : Session σ) {memory after : τ}
    {reply : Wire.Message} {verdict : Verdict α}
    (delivered : (loop.transport.poll session.world).value = .ok (some reply))
    (judged : loop.judge reply memory = (verdict, after)) :
    let next := loop.step ⟨memory, lost, .waiting⟩ session
    next.value = ⟨after, lost, verdict.stage⟩ ∧
      next.state = { session with world := (loop.transport.poll session.world).state } := by
  simp only [step, Action.bind_value, Action.bind_state, Session.outside_apply, delivered, hear,
    judged]
  cases verdict <;> exact ⟨rfl, rfl⟩

/-- Take so many steps. -/
def run : (steps : Nat) → Standing τ α → Action (Session σ) (Standing τ α)
  | 0, standing => return standing
  | steps + 1, standing => do
    let middle ← run steps standing
    loop.step middle

/-- Steps can be taken in two goes. -/
theorem run_add (first second : Nat) (standing : Standing τ α) :
    loop.run (first + second) standing = loop.run first standing >>= loop.run second := by
  induction second with
  | zero => exact (Action.bind_pure _).symm
  | succ second step =>
    calc loop.run (first + second + 1) standing
      _ = loop.run (first + second) standing >>= loop.step := rfl
      _ = loop.run first standing >>= loop.run second >>= loop.step := by rw [step]
      _ = loop.run first standing >>= loop.run (second + 1) := by rw [Action.bind_assoc]; rfl

@[simp] theorem run_one (standing : Standing τ α) : loop.run 1 standing = loop.step standing := rfl

/-- Runs that meet make one run. -/
theorem exists_run_trans {standing next : Standing τ α} {session middle : Session σ}
    {journal : Journal} {rest final : Traced (Session σ) (Standing τ α)}
    (first : ∃ steps, loop.run steps standing session = ⟨next, middle, journal⟩)
    (second : ∃ steps, loop.run steps next middle = rest)
    (joined : final = ⟨rest.value, rest.state, journal ++ rest.journal⟩) :
    ∃ steps, loop.run steps standing session = final := by
  obtain ⟨firstSteps, firstRun⟩ := first
  obtain ⟨secondSteps, secondRun⟩ := second
  refine ⟨firstSteps + secondSteps, ?_⟩
  rw [run_add, Action.bind_apply, firstRun, joined]
  simp only [Traced.andThen, secondRun]

/-- Where an exchange stands after an attempt. -/
def settle (lost : Nat) :
    Except AttemptFailure α × τ → Action (Session σ) (Standing τ α)
  | (.ok value, memory) => return ⟨memory, lost, .ended (.ok value)⟩
  | (.error (.aborted reason), memory) =>
    return ⟨memory, lost, .ended (.error (.malformed reason))⟩
  | (.error (.lost reason), memory) => loop.lose memory lost reason

/-- From a standing the exchange comes to its end with an outcome. -/
def Settles (standing : Standing τ α) (session : Session σ)
    (outcome : Traced (Session σ) (Except PeerError α × τ)) : Prop :=
  ∃ steps lost, loop.run steps standing session =
    ⟨⟨outcome.value.2, lost, .ended outcome.value.1⟩, outcome.state, outcome.journal⟩

/-- An exchange that has ended stays as it is. -/
theorem run_ended (steps : Nat) (memory : τ) (lost : Nat) (result : Except PeerError α)
    (session : Session σ) : loop.run steps ⟨memory, lost, .ended result⟩ session =
      ⟨⟨memory, lost, .ended result⟩, session, []⟩ := by
  induction steps with
  | zero => rfl
  | succ steps step =>
    rw [run, Action.bind_apply, step]
    rfl

/-- Further steps add nothing to a run that reached the end. -/
theorem run_add_of_ended {steps lost : Nat} {standing : Standing τ α} {session after : Session σ}
    {memory : τ} {result : Except PeerError α} {journal : Journal}
    (reached : loop.run steps standing session = ⟨⟨memory, lost, .ended result⟩, after, journal⟩)
    (further : Nat) : loop.run (steps + further) standing session =
      ⟨⟨memory, lost, .ended result⟩, after, journal⟩ := by
  rw [run_add, Action.bind_apply, reached]
  simp only [Traced.andThen, run_ended, List.append_nil]

/-- An exchange comes to one end only. -/
theorem Settles.unique {loop : RetryLoop σ τ α} {standing : Standing τ α} {session : Session σ}
    {first second : Traced (Session σ) (Except PeerError α × τ)}
    (here : loop.Settles standing session first) (there : loop.Settles standing session second) :
    first = second := by
  obtain ⟨steps, lost, reached⟩ := here
  obtain ⟨others, count, ended⟩ := there
  have same := loop.run_add_of_ended reached others
  rw [Nat.add_comm, loop.run_add_of_ended ended steps] at same
  simp only [Traced.mk.injEq, Standing.mk.injEq, Stage.ended.injEq] at same
  obtain ⟨⟨memory, -, value⟩, state, journal⟩ := same
  ext1
  · exact Prod.ext value.symm memory.symm
  · exact state.symm
  · exact journal.symm

end RetryLoop

namespace Client

variable {σ τ α : Type} (client : Client σ) (what : String) (request : Wire.Message)
  (judge : Judge τ α)

/-- Waiting for the right reply is a run of polls. -/
theorem exists_run_awaitReply (lost : Nat) (memory : τ) (world : σ) (session : Session σ) :
    let loop := client.retryLoop what request judge
    let waited := client.link.awaitReply judge memory world
    ∃ steps, loop.run steps ⟨memory, lost, .waiting⟩ { session with world } =
      Traced.andThen ⟨waited.value, { session with world := waited.state }, waited.journal⟩
        (loop.settle lost) := by
  intro loop waited
  unfold waited
  fun_induction Link.awaitReply client.link judge memory world with
  | case1 memory world reason failed =>
    refine ⟨1, ?_⟩
    simp only [RetryLoop.run_one, RetryLoop.step, Action.bind_apply, Session.outside_apply,
      Traced.andThen, RetryLoop.settle, loop, retryLoop, failed]
  | case2 memory world silent =>
    refine ⟨1, ?_⟩
    simp only [RetryLoop.run_one, RetryLoop.step, Action.bind_apply, Session.outside_apply,
      Traced.andThen, RetryLoop.settle, loop, retryLoop, silent]
  | case3 memory world reply arrived value after judged =>
    refine ⟨1, ?_⟩
    simp only [RetryLoop.run_one, RetryLoop.step, Action.bind_apply, Session.outside_apply,
      Traced.andThen, RetryLoop.settle, RetryLoop.hear, loop, retryLoop, arrived, judged]
  | case4 memory world reply arrived reason after judged =>
    refine ⟨1, ?_⟩
    simp only [RetryLoop.run_one, RetryLoop.step, Action.bind_apply, Session.outside_apply,
      Traced.andThen, RetryLoop.settle, RetryLoop.hear, loop, retryLoop, arrived, judged]
  | case5 memory world reply arrived reason after judged later step =>
    have heard : loop.step ⟨memory, lost, .waiting⟩ { session with world } =
        ⟨⟨after, lost, .waiting⟩, { session with world := (client.link.poll world).state },
          (client.link.poll world).journal ++ [⟨.info, .client, discardText reason⟩]⟩ := by
      simp only [RetryLoop.step, Action.bind_apply, Session.outside_apply, Traced.andThen,
        RetryLoop.hear, loop, retryLoop, arrived, judged, Action.info, Action.note_apply,
        Action.pure_apply, List.append_nil]
    refine loop.exists_run_trans ⟨1, heard⟩ step ?_
    simp only [Traced.andThen, List.append_assoc, List.cons_append, List.nil_append, later]

/-- An attempt is a run from the opening to where it leaves the exchange. -/
theorem exists_run_attempt (lost : Nat) (memory : τ) (session : Session σ) :
    let loop := client.retryLoop what request judge
    ∃ steps, loop.run steps ⟨memory, lost, .opening⟩ session =
      (client.attempt request judge memory session).andThen (loop.settle lost) := by
  intro loop
  let opened := client.link.ensureConnected session
  let sent := client.link.transmit request opened.state
  cases connecting : opened.value with
  | error reason =>
    refine ⟨1, ?_⟩
    simp only [opened] at connecting
    simp only [RetryLoop.run_one, RetryLoop.step, RetryLoop.settle, attempt, Action.bind_apply,
      Action.pure_apply, Traced.andThen, loop, retryLoop, connecting, List.append_nil]
  | ok =>
    have held : loop.step ⟨memory, lost, .opening⟩ session =
        ⟨⟨memory, lost, .sending⟩, opened.state, opened.journal⟩ := by
      simp only [opened] at connecting
      simp only [RetryLoop.step, Action.bind_apply, Action.pure_apply, Traced.andThen, loop,
        retryLoop, connecting, opened, List.append_nil]
    cases sending : sent.value with
    | error reason =>
      refine loop.exists_run_trans ⟨1, held⟩ ⟨1, rfl⟩ ?_
      simp only [opened, sent] at connecting sending
      simp only [RetryLoop.run_one, RetryLoop.step, RetryLoop.settle, attempt, Action.bind_apply,
        Action.pure_apply, Traced.andThen, loop, retryLoop, connecting, sending, opened,
        List.append_nil, List.append_assoc]
    | ok =>
      have asked : loop.step ⟨memory, lost, .sending⟩ opened.state =
          ⟨⟨memory, lost, .waiting⟩, sent.state, sent.journal⟩ := by
        simp only [sent] at sending
        simp only [RetryLoop.step, Action.bind_apply, Action.pure_apply, Traced.andThen, loop,
          retryLoop, sending, sent, List.append_nil]
      have waited : ∃ steps, loop.run steps ⟨memory, lost, .waiting⟩ sent.state = _ :=
        client.exists_run_awaitReply what request judge lost memory sent.state.world sent.state
      refine loop.exists_run_trans ⟨1, held⟩ (loop.exists_run_trans ⟨1, asked⟩ waited rfl) ?_
      simp only [opened, sent] at connecting sending
      simp only [attempt, Action.bind_apply, Traced.andThen, connecting, sending, opened, sent,
        Session.outside_apply, List.append_assoc]
      rfl

/-- An attempt leads to the end of the exchange if giving it up does. -/
theorem settles_attemptOr {next : PeerError → τ → Action (Session σ) (Except PeerError α × τ)}
    {lost : Nat} (memory : τ) (session : Session σ)
    (later : ∀ reason after middle,
      let outcome := next reason after { middle with connected := false }
      ∃ steps count, ((client.retryLoop what request judge).lose after lost reason middle).andThen
          ((client.retryLoop what request judge).run steps) =
        ⟨⟨outcome.value.2, count, .ended outcome.value.1⟩, outcome.state, outcome.journal⟩) :
    (client.retryLoop what request judge).Settles ⟨memory, lost, .opening⟩ session
      (client.attemptOr request judge next memory session) := by
  obtain ⟨steps, attempted⟩ := client.exists_run_attempt what request judge lost memory session
  match found : client.attempt request judge memory session with
  | ⟨(.ok value, after), middle, journal⟩ =>
    refine ⟨steps, lost, ?_⟩
    rw [attempted, attemptOr, Action.bind_apply, found]
    rfl
  | ⟨(.error (.aborted reason), after), middle, journal⟩ =>
    refine ⟨steps, lost, ?_⟩
    rw [attempted, attemptOr, Action.bind_apply, found]
    rfl
  | ⟨(.error (.lost reason), after), middle, journal⟩ =>
    obtain ⟨further, count, finished⟩ := later reason after middle
    refine ⟨steps + further, count, ?_⟩
    rw [RetryLoop.run_add, Action.bind_apply, attempted, found, attemptOr, Action.bind_apply, found]
    simp only [Traced.andThen, RetryLoop.settle, Traced.mk.injEq] at finished ⊢
    obtain ⟨ended, reached, noted⟩ := finished
    refine ⟨ended, reached, ?_⟩
    rw [List.append_assoc, noted]
    rfl

/-- The further attempts of an exchange, `left` of them behind the next one, lead to
its end. -/
theorem settles_exchangeFrom (left : Nat) (within : left < client.attempts) (memory : τ)
    (session : Session σ) :
    (client.retryLoop what request judge).Settles
      ⟨memory, client.attempts - (left + 1), .opening⟩ session
      (client.exchangeFrom what request judge left memory session) := by
  induction left generalizing memory session with
  | zero =>
    have last :
        ¬ client.attempts - (0 + 1) + 1 < (client.retryLoop what request judge).attempts := by
      change ¬ _ < client.attempts
      omega
    refine client.settles_attemptOr what request judge memory session
      (fun reason after middle => ⟨0, client.attempts - (0 + 1) + 1, ?_⟩)
    rw [RetryLoop.lose_last _ last]
    rfl
  | succ left step =>
    have again : client.attempts - (left + 2) + 1 <
        (client.retryLoop what request judge).attempts := by
      change _ < client.attempts
      omega
    have next : client.attempts - (left + 2) + 1 = client.attempts - (left + 1) := by omega
    refine client.settles_attemptOr what request judge memory session fun reason after middle => ?_
    obtain ⟨steps, count, finished⟩ := step (by omega) after { middle with connected := false }
    refine ⟨steps, count, ?_⟩
    rw [RetryLoop.lose_again _ again, next]
    simp only [Traced.andThen, finished]
    rfl

/-- An exchange over a link is a run of its loop from the start to the end. -/
theorem settles_exchange (memory : τ) (session : Session σ) :
    (client.retryLoop what request judge).Settles (.start memory) session
      (client.exchange what request judge memory session) := by
  have positive : 0 < client.attempts := (client.retryLoop what request judge).attempts_pos
  have settled := client.settles_exchangeFrom what request judge (client.attempts - 1) (by omega)
    memory session
  rwa [Nat.sub_add_cancel positive, Nat.sub_self] at settled

end Client

end PhotonFerry
