import Mathlib.Algebra.BigOperators.Group.List.Basic
import EPuckTavern.Transition.Run

namespace EPuckTavern.Transition

/-!
# What the events of a run add up to

A quantity that every step changes by what its events are worth changes over
a whole run by what the trace is worth.  A state that remembers the event
emitted last, and emits nothing but what may follow it, gives a trace in which
each event may follow the one before.  An object that accepts the events of
each step accepts the trace.
-/

variable {State Action Event Value : Type}

/-- Ledger rule: each step may use the condition it meets. -/
theorem run?_ledger_along
    [AddMonoid Value]
    {step? : Step State Action}
    {emit : State → Action → List Event}
    {invariant : State → Prop}
    {condition : State → Action → Prop}
    {quantity : State → Value}
    {worth : Event → Value}
    (preserved :
      ∀ {state action next},
        invariant state →
        condition state action →
        step? state action = some next →
        invariant next)
    (pays :
      ∀ {state action next},
        invariant state →
        condition state action →
        step? state action = some next →
        quantity next =
          quantity state + ((emit state action).map worth).sum)
    {state final : State}
    {actions : List Action}
    (holds : invariant state)
    (along : Along step? condition state actions)
    (ran : run? step? state actions = some final) :
    quantity final =
      quantity state +
        ((trace step? emit state actions).map worth).sum := by
  induction actions generalizing state with
  | nil =>
      simp only [run?_nil, Option.some.injEq] at ran
      simp [ran]
  | cons action rest inductionHypothesis =>
      obtain ⟨next, taken, later⟩ := run?_cons_eq_some.mp ran
      obtain ⟨meets, restAlong⟩ := (along_cons_of_step taken).mp along
      rw [inductionHypothesis (preserved holds meets taken) restAlong later,
        pays holds meets taken, trace_cons_of_step taken, List.map_append,
        List.sum_append, add_assoc]

/-- Ledger rule for the steps from an invariant. -/
theorem run?_ledger
    [AddMonoid Value]
    {step? : Step State Action}
    {emit : State → Action → List Event}
    {invariant : State → Prop}
    {quantity : State → Value}
    {worth : Event → Value}
    (preserved :
      ∀ {state action next},
        invariant state →
        step? state action = some next →
        invariant next)
    (pays :
      ∀ {state action next},
        invariant state →
        step? state action = some next →
        quantity next =
          quantity state + ((emit state action).map worth).sum)
    {state final : State}
    {actions : List Action}
    (holds : invariant state)
    (ran : run? step? state actions = some final) :
    quantity final =
      quantity state +
        ((trace step? emit state actions).map worth).sum :=
  run?_ledger_along
    (fun {_ _ _} before _ taken => preserved before taken)
    (fun {_ _ _} before _ taken => pays before taken) holds
    (along_of_forall_mem (fun _ _ _ _ _ => trivial) state) ran

/-- Chain rule: the trace goes on from the event that the state stands for. -/
theorem trace_isChain
    {step? : Step State Action}
    {emit : State → Action → List Event}
    {invariant : State → Prop}
    {relation : Event → Event → Prop}
    {current : State → Event}
    (preserved :
      ∀ {state action next},
        invariant state →
        step? state action = some next →
        invariant next)
    (follows :
      ∀ {state action next},
        invariant state →
        step? state action = some next →
        (emit state action = [] ∧ current next = current state) ∨
          (emit state action = [current next] ∧
            relation (current state) (current next)))
    {state : State}
    (holds : invariant state)
    (actions : List Action) :
    (current state :: trace step? emit state actions).IsChain relation := by
  induction actions generalizing state with
  | nil => exact .singleton _
  | cons action rest inductionHypothesis =>
      cases taken : step? state action with
      | none =>
          simp only [trace, taken]
          exact .singleton _
      | some next =>
          have later := inductionHypothesis (preserved holds taken)
          rw [trace_cons_of_step taken]
          rcases follows holds taken with
            ⟨silent, same⟩ | ⟨emitted, related⟩
          · rw [silent, ← same]
            exact later
          · rw [emitted]
            exact .cons_cons related later

/-- History rule: an invariant of the state and the actions that led to it. -/
theorem run?_history
    {step? : Step State Action}
    {invariant : List Action → State → Prop}
    (preserved :
      ∀ {past state action next},
        invariant past state →
        step? state action = some next →
        invariant (past ++ [action]) next)
    {past actions : List Action}
    {state final : State}
    (holds : invariant past state)
    (ran : run? step? state actions = some final) :
    invariant (past ++ actions) final := by
  induction actions generalizing past state with
  | nil =>
      simp only [run?_nil, Option.some.injEq] at ran
      simpa [ran] using holds
  | cons action rest inductionHypothesis =>
      obtain ⟨next, taken, later⟩ := run?_cons_eq_some.mp ran
      have goesOn := inductionHypothesis (preserved holds taken) later
      rwa [List.append_assoc] at goesOn

/-- History rule for events: an invariant of the state and what was emitted. -/
theorem trace_history
    {step? : Step State Action}
    {emit : State → Action → List Event}
    {condition : State → Action → Prop}
    {invariant : List Event → State → Prop}
    (preserved :
      ∀ {past state action next},
        invariant past state →
        condition state action →
        step? state action = some next →
        invariant (past ++ emit state action) next)
    {past : List Event}
    {actions : List Action}
    {state final : State}
    (holds : invariant past state)
    (along : Along step? condition state actions)
    (ran : run? step? state actions = some final) :
    invariant (past ++ trace step? emit state actions) final := by
  induction actions generalizing past state with
  | nil =>
      simp only [run?_nil, Option.some.injEq] at ran
      simpa [ran] using holds
  | cons action rest inductionHypothesis =>
      obtain ⟨next, taken, later⟩ := run?_cons_eq_some.mp ran
      obtain ⟨meets, goesOn⟩ := (along_cons_of_step taken).mp along
      rw [trace_cons_of_step taken, ← List.append_assoc]
      exact inductionHypothesis (preserved holds meets taken) goesOn later

/--
Acceptance rule: where an object beside the system accepts the events of each
step, it accepts the trace of each run.
-/
theorem trace_accepted
    {Object : Type}
    {step? : Step State Action}
    {emit : State → Action → List Event}
    {object? : Step Object Event}
    {related : State → Object → Prop}
    (accepts :
      ∀ {state next object action},
        related state object →
        step? state action = some next →
        ∃ object',
          run? object? object (emit state action) = some object' ∧
            related next object')
    {state final : State}
    {object : Object}
    {actions : List Action}
    (holds : related state object)
    (ran : run? step? state actions = some final) :
    ∃ object',
      run? object? object (trace step? emit state actions) =
          some object' ∧
        related final object' := by
  induction actions generalizing state object with
  | nil =>
      simp only [run?_nil, Option.some.injEq] at ran
      exact ⟨object, rfl, ran ▸ holds⟩
  | cons action rest inductionHypothesis =>
      obtain ⟨next, taken, later⟩ := run?_cons_eq_some.mp ran
      obtain ⟨middle, accepted, kept⟩ := accepts holds taken
      obtain ⟨object', goesOn, ends⟩ := inductionHypothesis kept later
      exact ⟨object', by
        rw [trace_cons_of_step taken]
        exact run?_append accepted goesOn, ends⟩

end EPuckTavern.Transition
