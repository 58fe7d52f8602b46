import Mathlib.Data.List.Induction
import PhotonFerry.Proofs.Client.Frame
/-!
# Which requests are tried, and on which connection

Calls in order try one request and no other, at most once in each attempt and so at
most as often as there are attempts. They open a connection exactly where none is
held; from a client without one they begin by opening it, and no message is
delivered before that.
-/

namespace PhotonFerry

namespace Call

/-- The request that a call tried to write. -/
def tried? : Call → Option Wire.Message
  | send request _ => some request
  | _ => none

/-- An attempt to open a connection. -/
def isConnect : Call → Bool
  | connect _ => true
  | _ => false

/-- Nothing else opens a connection. -/
theorem eq_connect_of_opens {call : Call} (opens : call.opens = true) :
    call = .connect (.ok ()) := by
  cases call with
  | connect answer =>
    cases answer with
    | error reason => simp [Call.opens] at opens
    | ok => rfl
  | send | poll => simp [Call.opens] at opens

end Call

/-- The requests that were tried, whether or not they could be written. -/
def requestsTried (calls : List Call) : List Wire.Message :=
  calls.filterMap Call.tried?

/-- This request alone was tried, and at most so often. -/
def Repeats (limit : Nat) (request : Wire.Message) (calls : List Call) : Prop :=
  ∃ count, count ≤ limit ∧ requestsTried calls = List.replicate count request

/-- A connection is asked for exactly where none is held. -/
def KeepsConnection (held : Bool) (calls : List Call) : Prop :=
  ∀ before call after, calls = before ++ call :: after → heldAfter held before = !call.isConnect

/-- The calls begin with a connection, and no message is delivered before there is one. -/
structure Fresh (calls : List Call) : Prop where
  begins : ∀ first rest, calls = first :: rest → first.isConnect = true
  delivers : ∀ before reply after, calls = before ++ .delivery reply :: after →
    .connect (.ok ()) ∈ before

@[simp] theorem requestsTried_append (first second : List Call) :
    requestsTried (first ++ second) = requestsTried first ++ requestsTried second :=
  List.filterMap_append

theorem length_requestsTried_singleton (call : Call) :
    (requestsTried [call]).length = call.isSend.toNat := by
  cases call <;> rfl

theorem mem_requestsTried_iff {calls : List Call} {request : Wire.Message} :
    request ∈ requestsTried calls ↔ ∃ answer, .send request answer ∈ calls := by
  constructor
  · intro member
    obtain ⟨call, made, tried⟩ := List.mem_filterMap.mp member
    cases call with
    | connect | poll => simp [Call.tried?] at tried
    | send sent answer =>
      obtain rfl : sent = request := by simpa [Call.tried?] using tried
      exact ⟨answer, made⟩
  · rintro ⟨answer, made⟩
    exact List.mem_filterMap.mpr ⟨_, made, rfl⟩

theorem heldAfter_append (held : Bool) (first second : List Call) :
    heldAfter held (first ++ second) = heldAfter (heldAfter held first) second :=
  List.foldl_append

/-- A connection that is held and was not before has been opened. -/
theorem connect_mem_of_heldAfter {calls : List Call} (held : heldAfter false calls = true) :
    .connect (.ok ()) ∈ calls := by
  induction calls using List.reverseRecOn with
  | nil => simp [heldAfter] at held
  | append_singleton calls call step =>
    rw [heldAfter_concat] at held
    cases lost : call.isLoss with
    | true => simp [lost] at held
    | false =>
      simp only [lost, Bool.false_eq_true, if_false, Bool.or_eq_true] at held
      rcases held with earlier | opens
      · exact List.mem_append_left _ (step earlier)
      · simp [Call.eq_connect_of_opens opens]

namespace Orderly

variable {attempts : Nat} {request : Wire.Message} {held : Bool} {calls : List Call} {call : Call}

theorem nil : Orderly attempts request held [] := by
  intro before call after split
  simp at split

/-- Calls in order were in order before the last of them, which was permitted. -/
theorem of_concat (orderly : Orderly attempts request held (calls ++ [call])) :
    Orderly attempts request held calls ∧ losses calls < attempts ∧
      Permitted request held calls call := by
  refine ⟨fun before other after split => ?_, orderly calls call [] rfl⟩
  exact orderly before other (after ++ [call]) (by rw [split, List.append_assoc]; rfl)

/-- No other request is tried. -/
theorem eq_of_mem_requestsTried (orderly : Orderly attempts request held calls)
    {tried : Wire.Message} (member : tried ∈ requestsTried calls) : tried = request := by
  obtain ⟨answer, made⟩ := mem_requestsTried_iff.mp member
  obtain ⟨before, after, split⟩ := List.append_of_mem made
  exact (orderly before _ after split).2.1

/-- Where a request may be tried, the present attempt has tried none. -/
theorem any_isSend_of_permitted (permitted : Permitted request held calls call)
    (sends : call.isSend = true) : (thisAttempt calls).any Call.isSend = false := by
  match call, sends, permitted with
  | .send sent answer, _, ⟨_, _, unasked, _⟩ =>
    exact List.any_eq_false.mpr fun other member => by simp [unasked other member]

/-- Each request that was tried belongs to an attempt of its own: to one that is lost, or
to the present one. -/
theorem length_requestsTried_le (orderly : Orderly attempts request held calls) :
    (requestsTried calls).length ≤
      losses calls + ((thisAttempt calls).any Call.isSend).toNat := by
  -- from the right, as the calls were made: what the last one may be depends on those before it
  induction calls using List.reverseRecOn with
  | nil => simp [requestsTried]
  | append_singleton calls call step =>
    obtain ⟨earlier, -, permitted⟩ := orderly.of_concat
    have before := step earlier
    have bounded := ((thisAttempt calls).any Call.isSend).toNat_le
    rw [requestsTried_append, List.length_append, length_requestsTried_singleton, losses_concat,
      thisAttempt_concat]
    cases sends : call.isSend with
    | true =>
      rw [any_isSend_of_permitted permitted sends, Bool.toNat_false] at before
      split
      · simp
        omega
      · simp [sends]
        omega
    | false =>
      split
      · simp
        omega
      · simpa [sends] using before

/-- The request is tried at most once for each attempt. -/
theorem repeats (orderly : Orderly attempts request held calls) :
    Repeats attempts request calls := by
  refine ⟨(requestsTried calls).length, ?_, List.eq_replicate_iff.mpr
    ⟨rfl, fun tried member => orderly.eq_of_mem_requestsTried member⟩⟩
  have bound := orderly.length_requestsTried_le
  rcases List.eq_nil_or_concat calls with rfl | ⟨earlier, last, rfl⟩
  · exact Nat.zero_le _
  · rw [List.concat_eq_append] at orderly bound ⊢
    obtain ⟨-, left, -⟩ := orderly.of_concat
    have bounded := ((thisAttempt earlier ++ [last]).any Call.isSend).toNat_le
    rw [losses_concat, thisAttempt_concat] at bound
    split at bound
    · simp only [List.any_nil, Bool.toNat_false] at bound
      omega
    · omega

/-- Calls in order keep the connection. -/
theorem keepsConnection (orderly : Orderly attempts request held calls) :
    KeepsConnection held calls := by
  intro before call after split
  obtain ⟨-, permitted⟩ := orderly before call after split
  cases call with
  | connect answer => exact permitted
  | send sent answer => exact permitted.2.1
  | poll answer => exact permitted.1

end Orderly

namespace KeepsConnection

variable {held : Bool} {first second calls : List Call}

theorem nil : KeepsConnection held [] := by
  intro before call after split
  simp at split

/-- What is called next keeps the connection that was left. -/
theorem append (head : KeepsConnection held first)
    (tail : KeepsConnection (heldAfter held first) second) :
    KeepsConnection held (first ++ second) := by
  intro before call after split
  -- the call is one of the second stretch, or it is one of the first
  rcases List.append_eq_append_iff.mp split with ⟨middle, rfl, rest⟩ | ⟨middle, whole, rest⟩
  · rw [heldAfter_append]
    exact tail middle call after rest
  · cases middle with
    | nil =>
      rw [List.append_nil] at whole
      subst whole
      exact tail [] call after rest.symm
    | cons next later =>
      obtain ⟨rfl, rfl⟩ := List.cons.inj rest
      exact head before call later whole

/-- A client begins by asking for a connection exactly if it holds none. -/
theorem isConnect_first {call : Call} {later : List Call}
    (keeps : KeepsConnection held (call :: later)) : call.isConnect = !held := by
  have here := keeps [] call later rfl
  cases held <;> cases found : call.isConnect <;> simp_all [heldAfter]

/-- Without a connection all begins with a fresh one. -/
theorem fresh (keeps : KeepsConnection false calls) : Fresh calls where
  begins := by
    rintro call later rfl
    exact keeps.isConnect_first
  delivers before reply after split := connect_mem_of_heldAfter (keeps before _ after split)

end KeepsConnection

end PhotonFerry
