/-!
# Journals and actions

Work that a user may want to follow leaves a journal: records in the order in
which things happened. An `Action` changes a state, gives a value and leaves a
journal. The journal is an output only; no action can read it. The `simp` lemmas
below state for each way of building an action what its value, state and journal
are, so that proofs about actions never unfold them. The last statement is about
histories of any kind, which grow as journals do.
-/

namespace PhotonFerry

/-- How urgent a record is. -/
inductive Severity where
  | error
  | warn
  | info
  | debug
  deriving DecidableEq, Repr

namespace Severity

/-- Zero for the most urgent. -/
def rank : Severity → Nat
  | error => 1
  | warn => 2
  | info => 3
  | debug => 4

/-- The name under which a record of this severity is shown. -/
def label : Severity → String
  | error => "ERROR"
  | warn => "WARN"
  | info => "INFO"
  | debug => "DEBUG"

end Severity

/-- What a record is about. -/
inductive Topic where
  | program
  | configuration
  | context
  | discovery
  | connection
  | client
  | recording
  | reader
  | geometry
  | run
  | metrics
  deriving DecidableEq, Repr

/-- One line of a journal. -/
structure LogRecord where
  severity : Severity
  topic : Topic
  text : String
  deriving DecidableEq, Repr

/-- Records in the order in which they were made. -/
abbrev Journal := List LogRecord

/-- What an action leaves: its value, the state after it and its journal. -/
@[ext] structure Traced (σ α : Type) where
  value : α
  state : σ
  journal : Journal

/-- Go on with what depends on the value. -/
def Traced.andThen {σ α β : Type} (head : Traced σ α) (next : α → σ → Traced σ β) : Traced σ β :=
  let tail := next head.value head.state
  ⟨tail.value, tail.state, head.journal ++ tail.journal⟩

/-- Work on a state `σ` that gives an `α`. -/
def Action (σ α : Type) : Type :=
  σ → Traced σ α

namespace Action

variable {σ τ α β : Type}

instance : Monad (Action σ) where
  pure value := fun state => ⟨value, state, []⟩
  bind first next := fun state => (first state).andThen next

@[simp] theorem pure_apply (value : α) (state : σ) :
    (pure value : Action σ α) state = ⟨value, state, []⟩ := rfl

theorem bind_apply (first : Action σ α) (next : α → Action σ β) (state : σ) :
    (first >>= next) state = (first state).andThen next := rfl

@[simp] theorem bind_value (first : Action σ α) (next : α → Action σ β) (state : σ) :
    ((first >>= next) state).value = (next (first state).value (first state).state).value := rfl

@[simp] theorem bind_state (first : Action σ α) (next : α → Action σ β) (state : σ) :
    ((first >>= next) state).state = (next (first state).value (first state).state).state := rfl

@[simp] theorem bind_journal (first : Action σ α) (next : α → Action σ β) (state : σ) :
    ((first >>= next) state).journal =
      (first state).journal ++ (next (first state).value (first state).state).journal := rfl

/-- Doing nothing more after an action leaves it as it is. -/
theorem bind_pure (action : Action σ α) : action >>= pure = action :=
  funext fun state => by
    simp only [bind, pure, Traced.andThen, List.append_nil]

/-- Actions one behind the other can be grouped as one likes. -/
theorem bind_assoc {γ : Type} (first : Action σ α) (next : α → Action σ β)
    (last : β → Action σ γ) :
    first >>= next >>= last = first >>= fun value => next value >>= last :=
  funext fun state => by
    simp only [bind, Traced.andThen, List.append_assoc]

/-- The state as it stands. -/
def get : Action σ σ :=
  fun state => ⟨state, state, []⟩

/-- Replace the state. -/
def set (state : σ) : Action σ Unit :=
  fun _ => ⟨(), state, []⟩

/-- Change the state. -/
def modify (change : σ → σ) : Action σ Unit :=
  fun state => ⟨(), change state, []⟩

/-- Leave one record. -/
def note (severity : Severity) (topic : Topic) (text : String) : Action σ Unit :=
  fun state => ⟨(), state, [⟨severity, topic, text⟩]⟩

/-- Leave some records. -/
def report (records : Journal) : Action σ Unit :=
  fun state => ⟨(), state, records⟩

/-- Leave one record that asks for attention. -/
def warn (topic : Topic) (text : String) : Action σ Unit := note .warn topic text

/-- Leave one record of normal progress. -/
def info (topic : Topic) (text : String) : Action σ Unit := note .info topic text

/-- Leave one record of detail. -/
def debug (topic : Topic) (text : String) : Action σ Unit := note .debug topic text

/-- Run an action on a part of a larger state. -/
def within (read : τ → σ) (write : σ → τ → τ) (action : Action σ α) : Action τ α :=
  fun whole =>
    let result := action (read whole)
    ⟨result.value, write result.state whole, result.journal⟩

@[simp] theorem get_apply (state : σ) :
    (get : Action σ σ) state = ⟨state, state, []⟩ := rfl

@[simp] theorem get_bind (next : σ → Action σ β) (state : σ) :
    (get >>= next) state = next state state := rfl

@[simp] theorem set_apply (state before : σ) :
    set state before = ⟨(), state, []⟩ := rfl

@[simp] theorem modify_apply (change : σ → σ) (state : σ) :
    modify change state = ⟨(), change state, []⟩ := rfl

@[simp] theorem note_apply (severity : Severity) (topic : Topic) (text : String) (state : σ) :
    note severity topic text state = ⟨(), state, [⟨severity, topic, text⟩]⟩ := rfl

@[simp] theorem report_apply (records : Journal) (state : σ) :
    report records state = ⟨(), state, records⟩ := rfl

@[simp] theorem within_apply (read : τ → σ) (write : σ → τ → τ) (action : Action σ α)
    (whole : τ) :
    within read write action whole =
      ⟨(action (read whole)).value, write (action (read whole)).state whole,
        (action (read whole)).journal⟩ := rfl

end Action

/-- A history grows at its end, one entry for each thing that was done. With one more
entry it is split at this entry, or where it was split before. -/
theorem split_concat {α : Type} {entries earlier later : List α} {last entry : α}
    (split : entries ++ [last] = earlier ++ entry :: later) :
    (entries = earlier ∧ last = entry ∧ later = []) ∨
      ∃ rest, entries = earlier ++ entry :: rest ∧ later = rest ++ [last] := by
  rcases List.eq_nil_or_concat later with rfl | ⟨rest, final, rfl⟩
  · obtain ⟨whole, same⟩ := List.append_inj' split rfl
    exact .inl ⟨whole, List.singleton_inj.mp same, rfl⟩
  · rw [List.concat_eq_append, ← List.cons_append, ← List.append_assoc] at split
    obtain ⟨whole, same⟩ := List.append_inj' split rfl
    obtain rfl := List.singleton_inj.mp same
    exact .inr ⟨rest, whole, List.concat_eq_append⟩

end PhotonFerry
