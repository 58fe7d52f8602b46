import PhotonFerry.Proofs.Client.Watch
/-!
# What the calls of an exchange say

A list of calls tells by itself how many attempts were lost, whether a connection
is held, what was asked in the present attempt and on the present connection, and
how the replies were judged. Nothing here knows how an exchange works; these are
the words in which its calls are said to be in order.
-/

namespace PhotonFerry

namespace Call

/-- A call that came to nothing: an error, or no message in time. -/
def isLoss : Call → Bool
  | connect (.error _) | send _ (.error _) | poll (.error _) | poll (.ok none) => true
  | _ => false

/-- A new connection. -/
def opens : Call → Bool
  | connect (.ok ()) => true
  | _ => false

/-- A request that was written. -/
def isSent : Call → Bool
  | send _ (.ok ()) => true
  | _ => false

/-- An attempt to write a request. -/
def isSend : Call → Bool
  | send _ _ => true
  | _ => false

/-- The message that a call delivered. -/
def reply? : Call → Option Wire.Message
  | poll (.ok (some reply)) => some reply
  | _ => none

/-- The call that delivers a message. -/
def delivery (reply : Wire.Message) : Call :=
  poll (.ok (some reply))

@[simp] theorem isLoss_delivery (reply : Wire.Message) : (delivery reply).isLoss = false := rfl

@[simp] theorem reply?_delivery (reply : Wire.Message) : (delivery reply).reply? = some reply := rfl

end Call

/-- The number of attempts that calls cost. -/
def losses (calls : List Call) : Nat :=
  calls.countP Call.isLoss

/-- The number of requests that were written. -/
def requestsSent (calls : List Call) : Nat :=
  calls.countP Call.isSent

/-- The messages that were delivered. -/
def repliesOf (calls : List Call) : List Wire.Message :=
  calls.filterMap Call.reply?

/-- Whether a connection is held behind some calls, if one was before them: a new
one is kept until a call comes to nothing. -/
def heldAfter (before : Bool) (calls : List Call) : Bool :=
  calls.foldl (fun held call => if call.isLoss then false else held || call.opens) before

/-- The calls of the present attempt, the ones behind the last that came to nothing. -/
def thisAttempt (calls : List Call) : List Call :=
  calls.foldl (fun attempt call => if call.isLoss then [] else attempt ++ [call]) []

/-- The number of attempts that were begun. -/
def attemptsBegun (calls : List Call) : Nat :=
  losses calls + if (thisAttempt calls).isEmpty then 0 else 1

/-- The calls on the present connection, the ones behind the last new one. -/
def thisConnection (calls : List Call) : List Call :=
  calls.foldl (fun connection call => if call.opens then [] else connection ++ [call]) []

/-- Whether a call may follow others in an exchange of `request`. A connection is
opened only while none is held; the request alone is sent, at most once in an
attempt and at most once on a connection; messages are waited for on a connection
that is held, once the attempt has sent the request. -/
def Permitted (request : Wire.Message) (held : Bool) (before : List Call) : Call → Prop
  | .connect _ => heldAfter held before = false
  | .send sent _ => sent = request ∧ heldAfter held before = true ∧
      (∀ call ∈ thisAttempt before, call.isSend = false) ∧
      (∀ call ∈ thisConnection before, call.isSend = false)
  | .poll _ => heldAfter held before = true ∧ .send request (.ok ()) ∈ thisAttempt before

/-- Calls are in order when each is permitted behind the ones before it and is made
while attempts are left. -/
def Orderly (attempts : Nat) (request : Wire.Message) (held : Bool) (calls : List Call) : Prop :=
  ∀ before call after, calls = before ++ call :: after →
    losses before < attempts ∧ Permitted request held before call

/-- At most one attempt is begun and not lost. -/
theorem attemptsBegun_le (calls : List Call) : attemptsBegun calls ≤ losses calls + 1 := by
  unfold attemptsBegun
  split <;> simp

section Append

variable (calls : List Call) (call : Call)

@[simp] theorem losses_concat :
    losses (calls ++ [call]) = losses calls + if call.isLoss then 1 else 0 := by
  simp only [losses, List.countP_append, List.countP_singleton]

@[simp] theorem requestsSent_concat :
    requestsSent (calls ++ [call]) = requestsSent calls + if call.isSent then 1 else 0 := by
  simp only [requestsSent, List.countP_append, List.countP_singleton]

@[simp] theorem repliesOf_concat :
    repliesOf (calls ++ [call]) = repliesOf calls ++ call.reply?.toList := by
  simp only [repliesOf, List.filterMap_append]
  cases found : call.reply? <;> simp [found]

@[simp] theorem heldAfter_concat (before : Bool) :
    heldAfter before (calls ++ [call]) =
      if call.isLoss then false else heldAfter before calls || call.opens := by
  simp only [heldAfter, List.foldl_append, List.foldl_cons, List.foldl_nil]

@[simp] theorem thisAttempt_concat :
    thisAttempt (calls ++ [call]) = if call.isLoss then [] else thisAttempt calls ++ [call] := by
  simp only [thisAttempt, List.foldl_append, List.foldl_cons, List.foldl_nil]

@[simp] theorem thisConnection_concat :
    thisConnection (calls ++ [call]) =
      if call.opens then [] else thisConnection calls ++ [call] := by
  simp only [thisConnection, List.foldl_append, List.foldl_cons, List.foldl_nil]

variable {calls call}

/-- Calls in order stay so with one more that is permitted. -/
theorem Orderly.concat {attempts : Nat} {request : Wire.Message} {held : Bool}
    (orderly : Orderly attempts request held calls) (left : losses calls < attempts)
    (permitted : Permitted request held calls call) :
    Orderly attempts request held (calls ++ [call]) := by
  intro before other after split
  rcases split_concat split with ⟨rfl, rfl, -⟩ | ⟨rest, whole, -⟩
  · exact ⟨left, permitted⟩
  · exact orderly before other rest whole

end Append

namespace Judge

variable {τ α : Type} (judge : Judge τ α)

/-- What a judge remembers after some replies. -/
def remember (replies : List Wire.Message) (memory : τ) : τ :=
  replies.foldl (fun memory reply => (judge reply memory).2) memory

/-- How a judge judges replies one after the other. -/
def verdicts : List Wire.Message → τ → List (Verdict α)
  | [], _ => []
  | reply :: rest, memory => (judge reply memory).1 :: verdicts rest (judge reply memory).2

@[simp] theorem remember_concat (replies : List Wire.Message) (reply : Wire.Message) (memory : τ) :
    judge.remember (replies ++ [reply]) memory =
      (judge reply (judge.remember replies memory)).2 := by
  simp only [remember, List.foldl_append, List.foldl_cons, List.foldl_nil]

@[simp] theorem verdicts_concat (replies : List Wire.Message) (reply : Wire.Message) (memory : τ) :
    judge.verdicts (replies ++ [reply]) memory =
      judge.verdicts replies memory ++ [(judge reply (judge.remember replies memory)).1] := by
  induction replies generalizing memory with
  | nil => rfl
  | cons first rest step =>
    simp only [List.cons_append, verdicts, step]
    rfl

/-- Each reply was judged with some memory. -/
theorem mem_verdicts {replies : List Wire.Message} {reply : Wire.Message}
    (member : reply ∈ replies) (memory : τ) :
    ∃ remembered, (judge reply remembered).1 ∈ judge.verdicts replies memory := by
  induction replies generalizing memory with
  | nil => exact nomatch member
  | cons first rest step =>
    rcases List.mem_cons.mp member with rfl | later
    · exact ⟨memory, List.mem_cons_self⟩
    · obtain ⟨remembered, found⟩ := step later (judge first memory).2
      exact ⟨remembered, List.mem_cons_of_mem _ found⟩

end Judge

end PhotonFerry
