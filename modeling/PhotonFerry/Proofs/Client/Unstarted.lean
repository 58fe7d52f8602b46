import PhotonFerry.Backend.Basic
import PhotonFerry.Link.Scripted
import PhotonFerry.Proofs.Client.Lifetime
import PhotonFerry.Proofs.Client.Proceedings
/-!
# Clients that were never started

A client that was made and never started ships no photons and talks to nobody, until it
is stopped: the first stop opens a connection to announce the end of a run that never
began. The client is closed by then, and silent from then on.
-/

namespace PhotonFerry

/-- Nothing was asked but to propagate or to stop. -/
def Unstarted (visits : List Visit) : Prop :=
  ∀ visit ∈ visits, visit.operation ≠ .start ∧ visit.operation ≠ .positions

/-- There was no stop. -/
def Unstopped (visits : List Visit) : Prop :=
  ∀ visit ∈ visits, visit.operation ≠ .stop

/-- What a stop that made these calls leaves of a client that made none before. -/
structure Stopped {σ : Type} (caller : Caller σ) (calls : List Call) (session : Session σ) :
    Prop where
  made : calls ≠ []
  /-- The end of a run is announced, and nothing else is said. -/
  orderly : Orderly caller.attempts (Wire.encodeRequest .runEnd) false calls
  phase : session.phase = .closed
  connected : session.connected = false
  sends : session.sends = requestsSent calls
  counts : session.Counts (connections calls)

variable {σ : Type} {caller : Caller σ} {visits : List Visit} {session : Session σ}

theorem Unstarted.of_concat {visit : Visit} (unstarted : Unstarted (visits ++ [visit])) :
    Unstarted visits ∧ visit.operation ≠ .start ∧ visit.operation ≠ .positions :=
  ⟨fun other member => unstarted other (List.mem_append_left _ member), unstarted visit (by simp)⟩

/-- The first stop of a client. -/
theorem Performs.stopped {performance : Performance σ} {world : σ}
    (performed : Performs caller { world } .stop performance) :
    Stopped caller performance.calls performance.after := by
  cases performed with
  | closed closed => exact nomatch closed
  | stop unclosed runEnd =>
    obtain ⟨lost, contract⟩ := runEnd.contract
    have none : Session.Counts { world } 0 := ⟨rfl, rfl⟩
    have counts := runEnd.counts none
    rw [Nat.zero_add] at counts
    exact {
      made := runEnd.calls_ne_nil
      orderly := runEnd.orderly
      phase := rfl
      connected := rfl
      sends := contract.sends.trans (Nat.zero_add _)
      counts }

/-- Without a start or a stop a client stays as it was made. -/
theorem Lives.untouched (lives : Lives caller visits session) (unstarted : Unstarted visits)
    (unstopped : Unstopped visits) :
    callsOf visits = [] ∧ session = { world := session.world } := by
  induction lives with
  | fresh world => exact ⟨rfl, rfl⟩
  | outside world earlier step =>
    obtain ⟨uncalled, made⟩ := step unstarted unstopped
    exact ⟨uncalled, congrArg (fun session => { session with world }) made⟩
  | perform earlier performed step =>
    obtain ⟨before, unstarting⟩ := unstarted.of_concat
    obtain ⟨uncalled, made⟩ :=
      step before fun visit member => unstopped visit (List.mem_append_left _ member)
    have unstopping := unstopped _ (List.mem_append_right _ List.mem_cons_self)
    cases performed with
    | start | known | unknown => simp at unstarting
    | closed | stop => exact absurd rfl unstopping
    | unready => exact ⟨by simp [uncalled], made⟩
    | propagate ready shipped =>
      -- a client that stays as it was made is not ready
      rw [made] at ready
      exact nomatch ready

/-- The first stop makes all calls. -/
theorem Lives.stopped {earlier later : List Visit} {stop : Visit}
    (lives : Lives caller visits session) (unstarted : Unstarted visits)
    (history : visits = earlier ++ stop :: later) (unstopped : Unstopped earlier)
    (stops : stop.operation = .stop) :
    callsOf visits = stop.calls ∧ Stopped caller stop.calls session := by
  induction lives generalizing later with
  | fresh => simp at history
  | outside world _ step =>
    obtain ⟨called, left⟩ := step unstarted history
    exact ⟨called, { left with }⟩
  | perform before performed step =>
    obtain ⟨unstartedBefore, unstarting⟩ := unstarted.of_concat
    -- the last operation is the first stop, or it finds the client closed
    rcases split_concat history with ⟨rfl, rfl, rfl⟩ | ⟨rest, whole, rfl⟩
    · obtain ⟨uncalled, made⟩ := before.untouched unstartedBefore unstopped
      obtain rfl := stops
      rw [made] at performed
      exact ⟨by simp [uncalled], performed.stopped⟩
    · obtain ⟨called, left⟩ := step unstartedBefore whole
      cases performed with
      | start | known | unknown => simp at unstarting
      | unready | closed => exact ⟨by simp [called], left⟩
      | propagate ready shipped => exact nomatch left.phase.symm.trans ready
      | stop unclosed runEnd => exact absurd left.phase unclosed

/-- Either there was no stop, or there was a first one. -/
theorem unstopped_or_exists_first (visits : List Visit) :
    Unstopped visits ∨ ∃ earlier stop later, visits = earlier ++ stop :: later ∧
      Unstopped earlier ∧ stop.operation = .stop := by
  induction visits with
  | nil => exact .inl fun _ member => nomatch member
  | cons visit rest step =>
    by_cases stops : visit.operation = .stop
    · exact .inr ⟨[], visit, rest, rfl, (fun _ member => nomatch member), stops⟩
    rcases step with unstopped | ⟨earlier, stop, later, rfl, unstopped, first⟩
    · exact .inl (List.forall_mem_cons.mpr ⟨stops, unstopped⟩)
    · exact .inr ⟨visit :: earlier, stop, later, rfl, List.forall_mem_cons.mpr ⟨stops, unstopped⟩,
        first⟩

/-- A client that was never started is not ready, and without a connection until it is closed. -/
theorem Lives.dormant (lives : Lives caller visits session) (unstarted : Unstarted visits) :
    session.phase ≠ .ready ∧
      (session.phase = .closed ∨ Unstopped visits ∧ session.connected = false) := by
  rcases unstopped_or_exists_first visits with unstopped | ⟨earlier, stop, later, history, first⟩
  · obtain ⟨-, made⟩ := lives.untouched unstarted unstopped
    rw [made]
    exact ⟨nofun, .inr ⟨unstopped, rfl⟩⟩
  · obtain ⟨-, left⟩ := lives.stopped unstarted history first.1 first.2
    rw [left.phase]
    exact ⟨nofun, .inl rfl⟩

/-- At every moment, whatever is asked of a client that was never started, but to start, it
makes no call unless it is stopped for the first time. -/
theorem Lives.proceeds_unstarted (lives : Lives caller visits session)
    (unstarted : Unstarted visits) {operation : Operation} {calls : List Call}
    (proceeds : Proceeds caller session operation calls) (other : operation ≠ .start)
    (another : operation ≠ .positions) :
    calls = [] ∨ operation = .stop ∧ Unstopped visits ∧
      Orderly caller.attempts (Wire.encodeRequest .runEnd) false calls := by
  obtain ⟨unready, silent⟩ := lives.dormant unstarted
  cases proceeds with
  | begun => exact .inl rfl
  | start => exact absurd rfl other
  | positions => exact absurd rfl another
  | propagate ready steps => exact absurd ready unready
  | stop unclosed steps =>
    obtain ⟨unstopped, free⟩ := silent.resolve_left unclosed
    exact .inr ⟨rfl, unstopped, free ▸ caller.runEnd.orderly_callsAfter () session steps⟩

/-- How silent a client is that was never started, over any transport. It makes no call and
stays as it was made exactly until it is stopped. The first stop connects and tries to
announce the end of a run, at most as often as there are attempts; it says nothing else and
leaves the client closed and silent for good. Nor does such a client make a call within an
operation that has not ended, unless this is the first stop. A client over a link proceeds in
this way, and to be told that the run is over is to be stopped. -/
theorem unstarted_client_silent (caller : Caller σ) {visits : List Visit} {session : Session σ}
    (lives : Lives caller visits session) (unstarted : Unstarted visits) :
    (callsOf visits = [] ↔ Unstopped visits) ∧
    (Unstopped visits → session = { world := session.world }) ∧
    (∀ earlier stop later, visits = earlier ++ stop :: later → Unstopped earlier →
      stop.operation = .stop → callsOf visits = stop.calls ∧ Stopped caller stop.calls session ∧
        Fresh stop.calls ∧ Repeats caller.attempts (Wire.encodeRequest .runEnd) stop.calls) ∧
    (∀ operation calls, Proceeds caller session operation calls → operation ≠ .start →
      operation ≠ .positions → calls = [] ∨ operation = .stop ∧ Unstopped visits ∧
        Orderly caller.attempts (Wire.encodeRequest .runEnd) false calls) ∧
    ∀ client : Client σ, client.caller = caller →
      (∀ operation,
        let watched := client.watched.perform operation session.watched
        watched.unwatched = client.perform operation session ∧
          Proceeds caller session operation watched.state.calls) ∧
      (Backend.endRun (LiveBackend.mk client session)).state =
        LiveBackend.mk client (client.perform .stop session).state := by
  refine ⟨⟨?called, fun unstopped => (lives.untouched unstarted unstopped).1⟩,
    fun unstopped => (lives.untouched unstarted unstopped).2, ?first,
    fun _ _ proceeds => lives.proceeds_unstarted unstarted proceeds, ?link⟩
  case called =>
    intro uncalled
    rcases unstopped_or_exists_first visits with unstopped | ⟨earlier, stop, later, history, first⟩
    · exact unstopped
    · obtain ⟨called, left⟩ := lives.stopped unstarted history first.1 first.2
      exact absurd (called.symm.trans uncalled) left.made
  case first =>
    intro earlier stop later history unstopped stops
    obtain ⟨called, left⟩ := lives.stopped unstarted history unstopped stops
    exact ⟨called, left, left.orderly.keepsConnection.fresh, left.orderly.repeats⟩
  case link =>
    rintro client rfl
    exact ⟨client.proceeds session, rfl⟩

/-- A client that is stopped behind an event, by a backend that refuses the only connection that
is tried. -/
theorem unstarted_client_silent_refused :
    let client : Client Script := ⟨Script.link "tcp://127.0.0.1:5554", 1, "run.root"⟩
    let event : Visit := ⟨.propagate {} {}, none, []⟩
    let stop : Visit := ⟨.stop, none, [.connect (.error (.connectionFailed "refused"))]⟩
    ∃ session, Lives client.caller [event, stop] session ∧
      callsOf [event, stop] = stop.calls ∧ Stopped client.caller stop.calls session ∧
      Fresh stop.calls := by
  intro client event stop
  let script : Script := { connects := [.error (.connectionFailed "refused")] }
  have runEnd : client.caller.runEnd.EndsIn () { world := script }
      (client.caller.runEnd.outcomeAfter () _ 1 (.error (.retriesExhausted 1))) :=
    RetryLoop.endsIn_outcomeAfter rfl
  have lives : Lives client.caller [event, stop] _ :=
    ((Lives.fresh script).perform (.unready (by decide))).perform (.stop (by decide) runEnd)
  have unstarted : Unstarted [event, stop] := by simp [Unstarted, event, stop]
  obtain ⟨-, -, first, -⟩ := unstarted_client_silent client.caller lives unstarted
  obtain ⟨called, left, fresh, -⟩ := first [event] stop [] rfl (by simp [Unstopped, event]) rfl
  exact ⟨_, lives, called, left, fresh⟩

/-- A client that was never started and is stopped connects and sends. -/
theorem unstarted_client_stop_sends :
    let client : Client Script := ⟨Script.link "tcp://127.0.0.1:5554", 1, "run.root"⟩
    let stopped := client.stop { world := {} }
    stopped.state.world.connectCalls = 1 ∧ stopped.state.sends = 1 ∧
      stopped.state.world.sent = [Wire.encodeRequest .runEnd] := by
  decide +kernel

end PhotonFerry
