import PhotonFerry.Link.Scripted
import PhotonFerry.Proofs.Client.Handshake
/-!
# What a failed start leaves behind

A start that fails leaves its client disconnected, and the client stays so until it next
talks to the backend. Where the attempts were used up the connection is gone with the
last of them, so that whatever comes next begins with a new one. Where the description of
the detector was wrong in itself the connection is still held, and what comes next is
sent on it.
-/

namespace PhotonFerry

section Idleness

variable {σ : Type} {caller : Caller σ} {session : Session σ}

/-- A start makes calls. -/
theorem Starts.calls_ne_nil {result : Except StartError DetectorInfo} {calls : List Call}
    {after : Session σ} (starts : Starts caller session result calls after) : calls ≠ [] := by
  cases starts with
  | unanswered ping failed => exact ping.calls_ne_nil
  | undescribed greeted failed | described greeted described =>
    simp [greeted.ping.calls_ne_nil]

/-- An operation that makes no call changes nothing. -/
theorem Performs.after_of_idle {operation : Operation} {performance : Performance σ}
    (performed : Performs caller session operation performance) (idle : performance.calls = []) :
    performance.after = session := by
  cases performed with
  | start starts | unknown _ starts => exact absurd idle starts.calls_ne_nil
  | known | unready | closed => rfl
  | propagate _ ended | stop _ ended => exact absurd idle ended.calls_ne_nil

end Idleness

section Failures

variable {σ : Type} {caller : Caller σ} {session : Session σ} {reason : StartError}

/-- The description of the detector was wrong in itself. -/
def StartError.IsMalformed (reason : StartError) : Prop :=
  ∃ flaw, reason = .detectorInfo (.malformed flaw)

/-- Where a client stands once a start of it has failed. -/
structure Fails (reason : StartError) (session : Session σ) : Prop where
  phase : session.phase = .disconnected
  connected : session.connected = true ↔ reason.IsMalformed

/-- A start that fails leaves its client so. -/
theorem Starts.fails {calls : List Call} {after : Session σ}
    (starts : Starts caller session (.error reason) calls after) : Fails reason after := by
  refine ⟨starts.effect.phase, ?_⟩
  cases starts with
  | unanswered ping failed =>
    obtain ⟨-, rfl⟩ := asking_ack_failed ping failed
    refine iff_of_false (fun held => ping.connected_iff.mp held failed) ?_
    rintro ⟨flaw, same⟩
    exact nomatch same
  | undescribed greeted failed =>
    have connected := greeted.detectorInfo.connected_iff
    cases (asking_value_iff greeted.detectorInfo _).mp failed with
    | aborted heard judged =>
      refine iff_of_true (connected.mpr fun exhausted => ?_) ⟨_, rfl⟩
      exact nomatch failed.symm.trans exhausted
    | exhausted lost =>
      refine iff_of_false (fun held => connected.mp held failed) ?_
      rintro ⟨flaw, same⟩
      exact nomatch same

/-- So it is with a client over a link. -/
theorem Client.fails_start (client : Client σ) (session : Session σ)
    (failed : (client.start session).value = .error reason) :
    Fails reason (client.start session).state := by
  have mirrored : (client.watched.start session.watched).unwatched = client.start session :=
    client.carried_watched.start session.watched
  obtain ⟨calls, -, starts⟩ := client.starts session.watched
  have value : (client.watched.start session.watched).value = .error reason :=
    (congrArg Traced.value mirrored).trans failed
  rw [value] at starts
  rw [← mirrored]
  exact starts.fails

/-- It stays so as long as no call is made, whatever is asked of the client. -/
theorem Lives.fails {visits earlier quiet : List Visit} {failed : Visit}
    (lives : Lives caller visits session) (history : visits = earlier ++ failed :: quiet)
    (failure : failed.begun = some (.error reason)) (silent : ∀ visit ∈ quiet, visit.calls = []) :
    Fails reason session := by
  induction lives generalizing quiet with
  | fresh => simp at history
  | outside world _ step => exact { step history silent with }
  | @perform visits session operation performance before performed step =>
    -- the last operation is the start that failed, or a later one, which made no call
    rcases split_concat history with ⟨-, rfl, -⟩ | ⟨rest, whole, rfl⟩
    · cases performed with
      | start starts | unknown _ starts =>
        obtain rfl := Option.some.inj failure
        exact starts.fails
      | known | unready | propagate | closed | stop => exact nomatch failure
    · have idle : performance.calls = [] := silent _ (List.mem_append_right _ List.mem_cons_self)
      rw [performed.after_of_idle idle]
      exact step whole fun visit member => silent visit (List.mem_append_left _ member)

/-- What a start that failed leaves behind, over any transport and whatever was done with
the client before. Until a call is made again the client is disconnected, and it holds a
connection exactly if the description of the detector was wrong in itself. At every
moment of the operation that makes the next call, this call opens a connection exactly if
none is held, and then no message is delivered before a new one is open. A client over a
link fails to start and proceeds in this way. -/
theorem failed_start_leaves (caller : Caller σ) {visits earlier quiet : List Visit}
    {session : Session σ} {failed : Visit} {reason : StartError}
    (lives : Lives caller visits session) (history : visits = earlier ++ failed :: quiet)
    (failure : failed.begun = some (.error reason))
    (silent : ∀ visit ∈ quiet, visit.calls = []) :
    Fails reason session ∧
    (∀ operation call later, Proceeds caller session operation (call :: later) →
      (call.isConnect = true ↔ ¬ reason.IsMalformed)) ∧
    (¬ reason.IsMalformed →
      ∀ operation calls, Proceeds caller session operation calls → Fresh calls) ∧
    ∀ client : Client σ, client.caller = caller →
      (∀ before, (client.start before).value = .error reason →
        Fails reason (client.start before).state) ∧
      ∀ operation,
        let watched := client.watched.perform operation session.watched
        watched.unwatched = client.perform operation session ∧
          Proceeds caller session operation watched.state.calls := by
  have fails : Fails reason session := lives.fails history failure silent
  refine ⟨fails, fun operation call later proceeds => ?_, fun sound operation calls proceeds => ?_,
    fun client same => ?_⟩
  · rw [proceeds.keepsConnection.isConnect_first, ← fails.connected]
    simp
  · have free : session.connected = false := by simpa using mt fails.connected.mp sound
    exact (free ▸ proceeds.keepsConnection : KeepsConnection false calls).fresh
  · subst same
    exact ⟨fun before => client.fails_start before, client.proceeds session⟩

/-- A backend that refuses the only connection that is tried. -/
theorem failed_start_leaves_refused :
    let client : Client Script := ⟨Script.link "tcp://127.0.0.1:5554", 1, "run.root"⟩
    let failed : Visit := ⟨.start, some (.error (.handshake (.retriesExhausted 1))),
      [.connect (.error (.connectionFailed "refused"))]⟩
    ∃ session, Lives client.caller [failed] session ∧
      session.phase = .disconnected ∧ session.connected = false ∧
      ∀ operation calls, Proceeds client.caller session operation calls → Fresh calls := by
  intro client failed
  let script : Script := { connects := [.error (.connectionFailed "refused")] }
  have ping : client.caller.ping.EndsIn () (Session.inPhase { world := script } .handshaking)
      (client.caller.ping.outcomeAfter () _ 1 (.error (.retriesExhausted 1))) :=
    RetryLoop.endsIn_outcomeAfter rfl
  have lives : Lives client.caller [failed] _ :=
    (Lives.fresh script).perform (.start (.unanswered ping rfl))
  have history : [failed] = [] ++ failed :: [] := rfl
  obtain ⟨fails, -, fresh, -⟩ := failed_start_leaves client.caller lives history rfl
    fun _ member => nomatch member
  have sound : ¬ StartError.IsMalformed (.handshake (.retriesExhausted 1)) := by
    rintro ⟨flaw, same⟩
    exact nomatch same
  exact ⟨_, lives, fails.phase, rfl, fresh sound⟩

/-- A start that fails for a bare tag keeps its connection: a ping is then answered with an
acknowledgement that was queued on it before, though the backend says nothing to it. -/
theorem malformed_start_keeps_connection :
    let client : Client Script := ⟨Script.link "tcp://127.0.0.1:5554", 1, "run.root"⟩
    let ack : Wire.Message := [Wire.Tag.ack.frame]
    let script : Script := { sends := [.ok [.ok (some ack)], .ok [.ok (some ack)],
      .ok [.ok (some [Wire.Tag.detectorInfo.frame]), .ok (some ack)]] }
    let failed := client.start { world := script }
    let pinged := client.ask "PING" (Wire.encodeRequest .ping) Client.judgeAck failed.state
    failed.value.isOk = false ∧ failed.state.connected = true ∧ failed.state.world.sends = [] ∧
      pinged.value.isOk = true ∧ pinged.state.world.connectCalls = 1 := by
  decide +kernel

end Failures

end PhotonFerry
