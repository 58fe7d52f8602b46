import PhotonFerry.Proofs.Run.Attended
import PhotonFerry.Proofs.Run.Reachable
/-!
# The life of a backend

A backend that a controller is given is first asked for its positions. Then its run begins
or it is refused, and nothing more happens to a backend that is refused. One whose run
began is in charge: the photons of events go to it and to no other, until it is told that
its run is over, once. This is so in whatever order runs are begun, events are processed
and runs are ended, and however they fail.
-/

namespace PhotonFerry

/-- Who is in charge, between one happening and the next. -/
inductive Charge where
  | nobody
  /-- A backend was asked for its positions, and it is still to be seen whether its run begins. -/
  | tried (number : Nat)
  | held (number : Nat)
  deriving DecidableEq, Repr

namespace Happening

/-- The backend that it happens to. -/
def number : Happening → Nat
  | asked number | began number | refused number | propagated number | ended number => number

/-- The backend whose run began last. -/
def latestBegun (log : List Happening) : Option Nat :=
  (log.filterMap fun happening => match happening with
    | began number => some number
    | asked _ | refused _ | propagated _ | ended _ => none).getLast?

/-- The histories in which one backend at most is in charge, of those that were given so far. -/
inductive Custody : (given : Nat) → Charge → List Happening → Prop where
  | start : Custody 0 .nobody []
  | asked {given log} (earlier : Custody given .nobody log) :
      Custody (given + 1) (.tried given) (log ++ [.asked given])
  | began {given number log} (earlier : Custody given (.tried number) log) :
      Custody given (.held number) (log ++ [.began number])
  | refused {given number log} (earlier : Custody given (.tried number) log) :
      Custody given .nobody (log ++ [.refused number])
  | propagated {given number log} (earlier : Custody given (.held number) log) :
      Custody given (.held number) (log ++ [.propagated number])
  | ended {given number log} (earlier : Custody given (.held number) log) :
      Custody given .nobody (log ++ [.ended number])

/-- What every happening keeps of a history, by who is in charge after it. -/
structure Accounted (given : Nat) (charge : Charge) (log : List Happening) : Prop where
  below : ∀ happening ∈ log, happening.number < given
  tried : ∀ number, charge = .tried number →
    number < given ∧ .began number ∉ log ∧ .refused number ∉ log
  held : ∀ number, charge = .held number →
    latestBegun log = some number ∧ .began number ∈ log ∧ .ended number ∉ log
  /-- A run that began goes on, or it was closed once. -/
  closed : ∀ number, .began number ∈ log →
    charge = .held number ∨ log.count (.ended number) = 1
  owned : ∀ number, .propagated number ∈ log ∨ .ended number ∈ log → .began number ∈ log
  refused : ∀ number, .refused number ∈ log → .began number ∉ log

/-- Each kind of happening keeps the account. The cases give what the happening changes; the rest
is as it was before. -/
theorem Custody.accounted {given : Nat} {charge : Charge} {log : List Happening}
    (custody : Custody given charge log) : Accounted given charge log := by
  induction custody with
  | start => constructor <;> simp
  | @asked given log earlier step =>
    -- its number is new, so that nothing has happened to it
    have fresh : ∀ happening ∈ log, happening.number ≠ given :=
      fun happening member => Nat.ne_of_lt (step.below happening member)
    obtain ⟨below, tried, held, closed, owned, refused⟩ := step
    constructor <;> grind [number]
  | @began given number log earlier step =>
    have last : latestBegun (log ++ [.began number]) = some number := by simp [latestBegun]
    have unended : .ended number ∉ log :=
      fun member => (step.tried number rfl).2.1 (step.owned number (.inr member))
    obtain ⟨below, tried, held, closed, owned, refused⟩ := step
    constructor <;> grind [Happening.number]
  | @refused given number log earlier step =>
    obtain ⟨below, tried, held, closed, owned, refused⟩ := step
    constructor <;> grind [Happening.number]
  | @propagated given number log earlier step =>
    have last : latestBegun (log ++ [.propagated number]) = latestBegun log := by
      simp [latestBegun]
    obtain ⟨below, tried, held, closed, owned, refused⟩ := step
    constructor <;> grind [Happening.number]
  | @ended given number log earlier step =>
    have once : (log ++ [Happening.ended number]).count (.ended number) = 1 := by
      rw [List.count_append, List.count_eq_zero.mpr (step.held number rfl).2.2,
        List.count_singleton_self]
    obtain ⟨below, tried, held, closed, owned, refused⟩ := step
    constructor <;> grind [Happening.number]

/-- What may happen, by who is in charge. -/
def Allowed : Charge → Happening → Prop
  | .nobody, .asked _ => True
  | .tried holder, .began number | .tried holder, .refused number
  | .held holder, .propagated number | .held holder, .ended number => number = holder
  | _, _ => False

/-- Whatever happened was allowed when it happened. -/
theorem Custody.allowed {given : Nat} {charge : Charge} {log earlier later : List Happening}
    {happening : Happening} (custody : Custody given charge log)
    (split : log = earlier ++ happening :: later) :
    ∃ given charge, Custody given charge earlier ∧ Allowed charge happening := by
  induction custody generalizing later with
  | start => simp at split
  | asked before step | began before step | refused before step | propagated before step
  | ended before step =>
    rcases split_concat split with ⟨rfl, rfl, -⟩ | ⟨rest, whole, -⟩
    · exact ⟨_, _, before, by simp [Allowed]⟩
    · exact step whole

/-- The lives of the backends in a history that has come to its end. -/
structure Lifecycle (log : List Happening) : Prop where
  /-- A backend whose run began is told once that it is over. -/
  ended_once : ∀ number, .began number ∈ log → log.count (.ended number) = 1
  /-- After that it is given no photons. -/
  released : ∀ number earlier later, log = earlier ++ .ended number :: later →
    .propagated number ∉ later
  /-- Photons go to the backend whose run began last, and not when it is over. -/
  in_charge : ∀ number earlier later, log = earlier ++ .propagated number :: later →
    latestBegun earlier = some number ∧ .ended number ∉ earlier
  /-- A backend that is refused is not used. -/
  unused : ∀ number, .refused number ∈ log → .propagated number ∉ log ∧ .ended number ∉ log
  /-- Every run that began is over before the next backend is asked for its positions. -/
  handed_over : ∀ number earlier later, log = earlier ++ .asked number :: later →
    ∀ previous, .began previous ∈ earlier → .ended previous ∈ earlier

/-- When nobody is in charge any more, the lives of the backends are complete. -/
theorem Custody.lifecycle {given : Nat} {log : List Happening}
    (custody : Custody given .nobody log) : Lifecycle log := by
  have accounted := custody.accounted
  have in_charge : ∀ number earlier later, log = earlier ++ .propagated number :: later →
      latestBegun earlier = some number ∧ .ended number ∉ earlier := by
    intro number earlier later split
    obtain ⟨given, charge, before, allowed⟩ := custody.allowed split
    cases charge with
    | nobody | tried => simp [Allowed] at allowed
    | held holder =>
      obtain rfl : number = holder := allowed
      obtain ⟨last, -, unended⟩ := before.accounted.held number rfl
      exact ⟨last, unended⟩
  constructor
  case in_charge => exact in_charge
  case ended_once =>
    intro number began
    exact (accounted.closed number began).resolve_left (nomatch ·)
  case released =>
    intro number earlier later split member
    obtain ⟨between, rest, rfl⟩ := List.append_of_mem member
    have whole : log = (earlier ++ .ended number :: between) ++ .propagated number :: rest := by
      rw [split, List.append_assoc, List.cons_append]
    exact (in_charge number _ _ whole).2 (by simp)
  case unused =>
    intro number refused
    have unbegun := accounted.refused number refused
    exact ⟨fun used => unbegun (accounted.owned number (.inl used)),
      fun used => unbegun (accounted.owned number (.inr used))⟩
  case handed_over =>
    intro number earlier later split previous began
    obtain ⟨given, charge, before, allowed⟩ := custody.allowed split
    cases charge with
    | tried | held => simp [Allowed] at allowed
    | nobody =>
      have once := (before.accounted.closed previous began).resolve_left (nomatch ·)
      exact List.count_pos_iff.mp (once ▸ Nat.one_pos)

end Happening

namespace Controller

open Happening (listed Custody Lifecycle)

variable {β ρ : Type} [Backend β] [Response ρ]

/-- What a run that was to begin comes to for its backend. -/
def verdict (number : Nat) : Except RunError Unit → Happening
  | .ok () => .began number
  | .error _ => .refused number

/-- The controllers that come about with a catalog, with all that happened to the backends
that were given so far. Each backend is attended to by its number. -/
inductive Conducted (catalog : Catalog) :
    (given : Nat) → List Happening → Controller (Attended β) ρ → Prop where
  | fresh (response : ρ) : Conducted catalog 0 [] { catalog, response }
  | beginRun {given log} {controller : Controller (Attended β) ρ}
      (earlier : Conducted catalog given log controller) (backend : β) :
      Conducted catalog (given + 1)
        (log ++ listed (beginRun ⟨given, backend⟩ controller).journal ++
          [verdict given (beginRun ⟨given, backend⟩ controller).value])
        (beginRun ⟨given, backend⟩ controller).state
  | collect {given log} {controller : Controller (Attended β) ρ}
      (earlier : Conducted catalog given log controller) (photons : PhotonBatch) :
      Conducted catalog given log { controller with photons }
  | processEvent {given log} {controller : Controller (Attended β) ρ}
      (earlier : Conducted catalog given log controller) (event : UInt32) :
      Conducted catalog given (log ++ listed (processEvent event controller).journal)
        (processEvent event controller).state
  | endRun {given log} {controller : Controller (Attended β) ρ}
      (earlier : Conducted catalog given log controller) :
      Conducted catalog given (log ++ listed (endRun controller).journal)
        (endRun controller).state

/-- The charge that the backend of a run has. -/
def chargeOf : Option Nat → Charge
  | none => .nobody
  | some number => .held number

variable {catalog : Catalog} {given : Nat} {log : List Happening}

omit [Response ρ] in
/-- Ending a run releases the backend in charge. -/
theorem custody_endRun {controller : Controller (Attended β) ρ}
    (custody : Custody given (chargeOf controller.inCharge) log) :
    Custody given .nobody (log ++ listed (endRun controller).journal) := by
  rw [(endRun_attended controller).1]
  cases held : controller.inCharge with
  | none => simpa [chargeOf, held] using custody
  | some number =>
    rw [held] at custody
    exact custody.ended

/-- Whoever conducts runs has one backend at most in charge. -/
theorem Conducted.custody {controller : Controller (Attended β) ρ}
    (conducted : Conducted catalog given log controller) :
    Custody given (chargeOf controller.inCharge) log := by
  induction conducted with
  | fresh response => exact .start
  | @beginRun given log controller earlier backend step =>
    obtain ⟨called, charge, -⟩ := beginRun_attended ⟨given, backend⟩ controller
    have released := custody_endRun step
    rw [(endRun_attended controller).1] at released
    rw [called, charge, ← List.append_assoc]
    cases (Controller.beginRun ⟨given, backend⟩ controller).value with
    | ok _ => exact released.asked.began
    | error reason => exact released.asked.refused
  | collect earlier photons step => exact step
  | @processEvent given log controller earlier event step =>
    obtain ⟨called, charge, -⟩ := processEvent_attended event controller
    rw [called, charge]
    cases held : controller.inCharge with
    | none => simpa [held] using step
    | some number =>
      rw [held] at step
      exact step.propagated
  | @endRun given log controller earlier step =>
    rw [(endRun_attended controller).2.1]
    exact custody_endRun step

/-- Every controller that can be reached can be reached with its backends attended to. -/
theorem Reachable.exists_conducted {controller : Controller β ρ}
    (reachable : Reachable catalog controller) :
    ∃ given log, ∃ attended : Controller (Attended β) ρ,
      Conducted catalog given log attended ∧ attended.unattended = controller := by
  have begins {controller : Controller β ρ} (backend : β) :
      (∃ given log, ∃ attended : Controller (Attended β) ρ,
        Conducted catalog given log attended ∧ attended.unattended = controller) →
      ∃ given log, ∃ attended : Controller (Attended β) ρ,
        Conducted catalog given log attended ∧
          attended.unattended = (Controller.beginRun backend controller).state := by
    rintro ⟨given, log, attended, conducted, rfl⟩
    exact ⟨_, _, _, conducted.beginRun backend,
      (beginRun_attended ⟨given, backend⟩ attended).2.2.state⟩
  induction reachable with
  | fresh response => exact ⟨_, _, _, .fresh response, rfl⟩
  | beginRun backend earlier step => exact begins backend step
  | @beginRunBy controller opening earlier step =>
    cases opened : (opening ()).value with
    | error reason => simpa [Controller.beginRunBy, opened] using step
    | ok backend => simpa [Controller.beginRunBy, opened] using begins backend step
  | collect photons earlier step =>
    obtain ⟨given, log, attended, conducted, rfl⟩ := step
    exact ⟨_, _, _, conducted.collect photons, rfl⟩
  | processEvent event earlier step =>
    obtain ⟨given, log, attended, conducted, rfl⟩ := step
    exact ⟨_, _, _, conducted.processEvent event, (processEvent_attended event attended).2.2.state⟩
  | endRun earlier step =>
    obtain ⟨given, log, attended, conducted, rfl⟩ := step
    exact ⟨_, _, _, conducted.endRun, (endRun_attended attended).2.2.state⟩

omit [Response ρ] in
/-- If no run begins, none is in progress. -/
theorem not_isRunning_of_refused {backend : β} {controller : Controller β ρ} {reason : RunError}
    (refused : (Controller.beginRun backend controller).value = .error reason) :
    ¬ (Controller.beginRun backend controller).state.isRunning := by
  cases found : locate controller.catalog backend with
  | error _ =>
    rw [(beginRun_unlocated found).2, isRunning, endRun_backend]
    exact Bool.false_ne_true
  | ok channels => simp [(beginRun_located found).1] at refused

/-- Whatever is done with a controller, and in whatever order it succeeds and fails, each
backend whose run began is told once that its run is over, and is given no photons after
that; photons go to the backend whose run began last and no other; a backend that was
refused is not used; and a run is over before the next backend is asked for its positions.
For this the history of a controller is brought to its end by ending its run, as it is when
nobody holds the controller any more. Every controller that can be reached has such a
history, since attending to a backend changes nothing that a controller does. Each operation
calls the backend in charge, if there is one, and beginning a run then asks the new backend
for its positions. A run that is refused leaves no run in progress, and ending a run that is
over does nothing. -/
theorem lifecycle_conducted (catalog : Catalog) :
    (∀ given log (controller : Controller (Attended β) ρ),
      Conducted catalog given log controller →
        Lifecycle (log ++ listed (endRun controller).journal)) ∧
    (∀ controller : Controller β ρ, Reachable catalog controller →
      ∃ given log, ∃ attended : Controller (Attended β) ρ,
        Conducted catalog given log attended ∧ attended.unattended = controller) ∧
    (∀ (attended : Controller (Attended β) ρ) given (backend : β) event,
      (listed (beginRun ⟨given, backend⟩ attended).journal =
          (attended.inCharge.map Happening.ended).toList ++ [.asked given] ∧
        Unnoticed (beginRun ⟨given, backend⟩ attended) (beginRun backend attended.unattended)) ∧
      (listed (processEvent event attended).journal =
          (attended.inCharge.map Happening.propagated).toList ∧
        Unnoticed (processEvent event attended) (processEvent event attended.unattended)) ∧
      listed (endRun attended).journal = (attended.inCharge.map Happening.ended).toList ∧
        Unnoticed (endRun attended) (endRun attended.unattended)) ∧
    (∀ (controller : Controller β ρ) backend reason,
      (beginRun backend controller).value = .error reason →
        ¬ (beginRun backend controller).state.isRunning) ∧
    ∀ controller : Controller β ρ,
      endRun (endRun controller).state = ⟨none, (endRun controller).state, []⟩ := by
  refine ⟨?_, fun controller reachable => reachable.exists_conducted, ?_,
    fun controller backend reason refused => not_isRunning_of_refused refused,
    fun controller => endRun_idle (endRun_backend controller)⟩
  · intro given log controller conducted
    exact (custody_endRun conducted.custody).lifecycle
  · intro attended given backend event
    obtain ⟨begins, -, begun⟩ := beginRun_attended ⟨given, backend⟩ attended
    obtain ⟨processes, -, processed⟩ := processEvent_attended event attended
    obtain ⟨ends, -, ended⟩ := endRun_attended attended
    exact ⟨⟨begins, begun⟩, ⟨processes, processed⟩, ends, ended⟩

end Controller

end PhotonFerry
