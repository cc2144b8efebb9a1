import Mathlib.Data.List.Basic

namespace EPuckTavern.Transition

/-!
# Runs of executable transition systems

A system is given by one executable partial step: `none` means that the
action is not enabled in the current state.  Runs are finite action lists, so
a concrete interleaving can be evaluated, and every rule below is an induction
over that list: invariants, conditions met by each step of a run, emitted
events, and two runs advancing together.

Nothing here mentions a particular program.
-/

/-- A partial step: `none` if the action is not enabled. -/
abbrev Step (State Action : Type) :=
  State → Action → Option State

variable {State Action Event : Type}

/-- Take the actions of a finite run in order. -/
def run? (step? : Step State Action) :
    State → List Action → Option State
  | state, [] =>
      some state
  | state, action :: rest =>
      match step? state action with
      | none => none
      | some next => run? step? next rest

/-- The events emitted by the enabled steps of a run, oldest first. -/
def trace
    (step? : Step State Action)
    (emit : State → Action → List Event) :
    State → List Action → List Event
  | _, [] =>
      []
  | state, action :: rest =>
      match step? state action with
      | none => []
      | some next => emit state action ++ trace step? emit next rest

/--
Every enabled step of the run meets a condition on its start state and
action.
-/
def Along
    (step? : Step State Action)
    (condition : State → Action → Prop) :
    State → List Action → Prop
  | _, [] =>
      True
  | state, action :: rest =>
      match step? state action with
      | none => True
      | some next =>
          condition state action ∧ Along step? condition next rest

/-- A state reached from `initial` by some finite run. -/
def Reachable
    (step? : Step State Action)
    (initial state : State) : Prop :=
  ∃ actions, run? step? initial actions = some state

section Runs

variable {step? : Step State Action}

@[simp] theorem run?_nil
    (state : State) :
    run? step? state [] = some state :=
  rfl

/-- A run that is enabled ends in the state that it evaluates to. -/
theorem run?_eq_some_getD
    {state : State}
    {actions : List Action}
    (enabled : (run? step? state actions).isSome = true) :
    run? step? state actions =
      some ((run? step? state actions).getD state) := by
  obtain ⟨final, ran⟩ := Option.isSome_iff_exists.mp enabled
  rw [ran]
  rfl

theorem run?_cons_eq_some
    {state final : State}
    {action : Action}
    {rest : List Action} :
    run? step? state (action :: rest) = some final ↔
      ∃ next,
        step? state action = some next ∧
          run? step? next rest = some final := by
  simp only [run?]
  cases taken : step? state action with
  | none =>
      simp
  | some next =>
      simp

theorem run?_cons_of_step
    {state next : State}
    {action : Action}
    (taken : step? state action = some next)
    (rest : List Action) :
    run? step? state (action :: rest) = run? step? next rest := by
  simp only [run?, taken]

/-- A run over an append is a run to a middle state and a run from it. -/
theorem run?_append_eq_some
    {state final : State}
    {leading trailing : List Action} :
    run? step? state (leading ++ trailing) = some final ↔
      ∃ middle,
        run? step? state leading = some middle ∧
          run? step? middle trailing = some final := by
  induction leading generalizing state with
  | nil =>
      simp
  | cons action rest inductionHypothesis =>
      simp only [List.cons_append, run?_cons_eq_some,
        inductionHypothesis]
      constructor
      · rintro ⟨next, taken, middle, earlier, later⟩
        exact ⟨middle, ⟨next, taken, earlier⟩, later⟩
      · rintro ⟨middle, ⟨next, taken, earlier⟩, later⟩
        exact ⟨next, taken, middle, earlier, later⟩

/-- A system whose steps are all enabled runs as a fold. -/
theorem run?_total
    (next : State → Action → State)
    (state : State)
    (actions : List Action) :
    run? (fun state action => some (next state action)) state actions =
      some (actions.foldl next state) := by
  induction actions generalizing state with
  | nil =>
      rfl
  | cons action rest inductionHypothesis =>
      exact inductionHypothesis (next state action)

theorem run?_append
    {state middle final : State}
    {leading trailing : List Action}
    (earlier : run? step? state leading = some middle)
    (later : run? step? middle trailing = some final) :
    run? step? state (leading ++ trailing) = some final :=
  run?_append_eq_some.mpr ⟨middle, earlier, later⟩

namespace Reachable

variable {initial state next : State} {action : Action}

theorem refl
    (initial : State) :
    Reachable step? initial initial :=
  ⟨[], rfl⟩

/-- A step from a reachable state reaches the next. -/
theorem step
    (reachable : Reachable step? initial state)
    (taken : step? state action = some next) :
    Reachable step? initial next := by
  obtain ⟨actions, ran⟩ := reachable
  refine ⟨actions ++ [action], run?_append ran ?_⟩
  simp [run?_cons_of_step taken]

end Reachable

/--
Invariant rule: what every enabled step preserves holds at the end of every
run that starts with it.
-/
theorem run?_invariant
    {invariant : State → Prop}
    (preserved :
      ∀ {state action next},
        invariant state →
        step? state action = some next →
        invariant next)
    {state final : State}
    {actions : List Action}
    (holds : invariant state)
    (ran : run? step? state actions = some final) :
    invariant final := by
  induction actions generalizing state with
  | nil =>
      simp only [run?_nil, Option.some.injEq] at ran
      exact ran ▸ holds
  | cons action rest inductionHypothesis =>
      obtain ⟨next, taken, later⟩ := run?_cons_eq_some.mp ran
      exact inductionHypothesis (preserved holds taken) later

/-- Invariant rule for the states reachable from one initial state. -/
theorem Reachable.invariant
    {invariant : State → Prop}
    (preserved :
      ∀ {state action next},
        invariant state →
        step? state action = some next →
        invariant next)
    {initial state : State}
    (initially : invariant initial)
    (reachable : Reachable step? initial state) :
    invariant state := by
  obtain ⟨actions, ran⟩ := reachable
  exact run?_invariant preserved initially ran

/--
Termination rule: where every step lowers a measure and nothing but an end
stops the system, it comes to an end whatever the actions are.
-/
theorem run?_ends
    {invariant : State → Prop}
    {isEnd : State → Prop}
    {measure : State → Nat}
    (goesOn :
      ∀ {state} action,
        invariant state →
        ¬ isEnd state →
        ∃ next,
          step? state action = some next ∧
            invariant next ∧ measure next < measure state)
    {state : State}
    (holds : invariant state)
    (actions : Nat → Action) :
    ∃ count final,
      count ≤ measure state ∧
        run? step? state ((List.range count).map actions) = some final ∧
        isEnd final ∧ invariant final := by
  generalize bound : measure state = size
  induction size using Nat.strongRecOn generalizing state actions with
  | ind size inductionHypothesis =>
      by_cases ended : isEnd state
      · exact ⟨0, state, Nat.zero_le _, rfl, ended, holds⟩
      · obtain ⟨next, taken, preserved, lower⟩ :=
          goesOn (actions 0) holds ended
        obtain ⟨count, final, within, ran, atEnd, kept⟩ :=
          inductionHypothesis (measure next) (bound ▸ lower) preserved
            (fun index => actions (index + 1)) rfl
        refine ⟨count + 1, final, by omega, ?_, atEnd, kept⟩
        rw [List.range_succ_eq_map, List.map_cons, List.map_map,
          run?_cons_of_step taken]
        exact ran

end Runs

section Conditions

variable {step? : Step State Action}

@[simp] theorem along_nil
    (condition : State → Action → Prop)
    (state : State) :
    Along step? condition state [] :=
  trivial

theorem along_cons_of_step
    {condition : State → Action → Prop}
    {state next : State}
    {action : Action}
    {rest : List Action}
    (taken : step? state action = some next) :
    Along step? condition state (action :: rest) ↔
      condition state action ∧
        Along step? condition next rest := by
  simp only [Along, taken]

instance decidableAlong
    (condition : State → Action → Prop)
    [∀ state action, Decidable (condition state action)] :
    ∀ state actions, Decidable (Along step? condition state actions)
  | _, [] => .isTrue trivial
  | state, action :: rest =>
      match taken : step? state action with
      | none => .isTrue (by simp only [Along, taken])
      | some next =>
          have := decidableAlong condition next rest
          decidable_of_iff
            (condition state action ∧ Along step? condition next rest)
            (along_cons_of_step taken).symm

/-- A condition that all actions meet holds along each run of them. -/
theorem along_of_forall_mem
    {condition : State → Action → Prop}
    {actions : List Action}
    (meets :
      ∀ action ∈ actions, ∀ {state next},
        step? state action = some next →
        condition state action)
    (state : State) :
    Along step? condition state actions := by
  induction actions generalizing state with
  | nil =>
      trivial
  | cons action rest inductionHypothesis =>
      simp only [Along]
      cases taken : step? state action with
      | none =>
          trivial
      | some next =>
          exact ⟨meets action List.mem_cons_self taken,
            inductionHypothesis
              (fun later member =>
                meets later (List.mem_cons_of_mem action member))
              next⟩

theorem Along.mono
    {condition weaker : State → Action → Prop}
    {state : State}
    {actions : List Action}
    (along : Along step? condition state actions)
    (implies :
      ∀ state action, condition state action → weaker state action) :
    Along step? weaker state actions := by
  induction actions generalizing state with
  | nil =>
      trivial
  | cons action rest inductionHypothesis =>
      simp only [Along] at along ⊢
      cases taken : step? state action with
      | none =>
          trivial
      | some next =>
          simp only [taken] at along
          exact ⟨implies _ _ along.1, inductionHypothesis along.2⟩

theorem along_append
    {condition : State → Action → Prop}
    {state middle : State}
    {leading : List Action}
    (ran : run? step? state leading = some middle)
    (trailing : List Action) :
    Along step? condition state (leading ++ trailing) ↔
      Along step? condition state leading ∧
        Along step? condition middle trailing := by
  induction leading generalizing state with
  | nil =>
      simp only [run?_nil, Option.some.injEq] at ran
      simp [ran]
  | cons action rest inductionHypothesis =>
      obtain ⟨next, taken, later⟩ := run?_cons_eq_some.mp ran
      simp only [List.cons_append, along_cons_of_step taken,
        inductionHypothesis later, and_assoc]

/-- What holds along every run holds of each step that a run can end with. -/
theorem along_last
    {condition : State → Action → Prop}
    {state middle next : State}
    {leading : List Action}
    {action : Action}
    (along : Along step? condition state (leading ++ [action]))
    (ran : run? step? state leading = some middle)
    (taken : step? middle action = some next) :
    condition middle action :=
  ((along_cons_of_step taken).mp
    ((along_append ran [action]).mp along).2).1

/-- A run meets a condition if the last step of each of its prefixes does. -/
theorem along_of_forall_prefix
    {condition : State → Action → Prop}
    {state : State}
    {actions : List Action}
    (meets :
      ∀ leading action middle next,
        leading ++ [action] <+: actions →
        run? step? state leading = some middle →
        step? middle action = some next →
        condition middle action) :
    Along step? condition state actions := by
  induction actions generalizing state with
  | nil =>
      trivial
  | cons action rest inductionHypothesis =>
      simp only [Along]
      cases taken : step? state action with
      | none =>
          trivial
      | some next =>
          refine ⟨meets [] action state next ?_ rfl taken,
            inductionHypothesis ?_⟩
          · exact (List.prefix_cons_inj action).mpr List.nil_prefix
          · intro leading last middle final before ran
            exact meets (action :: leading) last middle final
              ((List.prefix_cons_inj action).mpr before)
              ((run?_cons_of_step taken leading).trans ran)

/-- Relative invariant rule: each step may use the condition it meets. -/
theorem run?_invariant_along
    {invariant : State → Prop}
    {condition : State → Action → Prop}
    (preserved :
      ∀ {state action next},
        invariant state →
        condition state action →
        step? state action = some next →
        invariant next)
    {state final : State}
    {actions : List Action}
    (holds : invariant state)
    (along : Along step? condition state actions)
    (ran : run? step? state actions = some final) :
    invariant final := by
  induction actions generalizing state with
  | nil =>
      simp only [run?_nil, Option.some.injEq] at ran
      exact ran ▸ holds
  | cons action rest inductionHypothesis =>
      obtain ⟨next, taken, later⟩ := run?_cons_eq_some.mp ran
      obtain ⟨meets, restAlong⟩ := (along_cons_of_step taken).mp along
      exact inductionHypothesis
        (preserved holds meets taken) restAlong later

/--
Consequence rule: a condition met along a run gives every condition that
follows from it at the states of a relative invariant.
-/
theorem Along.consequence
    {invariant : State → Prop}
    {condition conclusion : State → Action → Prop}
    {state : State}
    {actions : List Action}
    (along : Along step? condition state actions)
    (preserved :
      ∀ {state action next},
        invariant state →
        condition state action →
        step? state action = some next →
        invariant next)
    (concludes :
      ∀ {state action next},
        invariant state →
        condition state action →
        step? state action = some next →
        conclusion state action)
    (holds : invariant state) :
    Along step? conclusion state actions := by
  induction actions generalizing state with
  | nil =>
      trivial
  | cons action rest inductionHypothesis =>
      simp only [Along] at along ⊢
      cases taken : step? state action with
      | none =>
          trivial
      | some next =>
          simp only [taken] at along
          exact ⟨concludes holds along.1 taken,
            inductionHypothesis along.2 (preserved holds along.1 taken)⟩

/--
Refinement rule: where each step is a run of the abstract system, which may be
empty, each run of the concrete one is the run of all of them together.
-/
theorem run?_trace_of_refines
    {Abstract AbstractAction : Type}
    {abstract? : Step Abstract AbstractAction}
    {abstraction : State → Abstract}
    {emit : State → Action → List AbstractAction}
    {invariant : State → Prop}
    {condition : State → Action → Prop}
    (preserved :
      ∀ {state action next},
        invariant state →
        condition state action →
        step? state action = some next →
        invariant next)
    (refines :
      ∀ {state action next},
        invariant state →
        condition state action →
        step? state action = some next →
        run? abstract? (abstraction state) (emit state action) =
          some (abstraction next))
    {state final : State}
    {actions : List Action}
    (holds : invariant state)
    (along : Along step? condition state actions)
    (ran : run? step? state actions = some final) :
    run? abstract? (abstraction state) (trace step? emit state actions) =
      some (abstraction final) := by
  induction actions generalizing state with
  | nil =>
      simp only [run?_nil, Option.some.injEq] at ran
      rw [trace, ran, run?_nil]
  | cons action rest inductionHypothesis =>
      obtain ⟨next, taken, later⟩ := run?_cons_eq_some.mp ran
      obtain ⟨meets, restAlong⟩ := (along_cons_of_step taken).mp along
      simp only [trace, taken]
      exact run?_append (refines holds meets taken)
        (inductionHypothesis (preserved holds meets taken) restAlong later)

/--
Two conditions that agree on every step enabled at a state satisfying an
invariant hold along the same runs.
-/
theorem along_congr
    {invariant : State → Prop}
    {first second : State → Action → Prop}
    (preserved :
      ∀ {state action next},
        invariant state →
        step? state action = some next →
        invariant next)
    (agree :
      ∀ {state action next},
        invariant state →
        step? state action = some next →
        (first state action ↔ second state action))
    {state : State}
    (holds : invariant state)
    (actions : List Action) :
    Along step? first state actions ↔
      Along step? second state actions := by
  induction actions generalizing state with
  | nil =>
      simp
  | cons action rest inductionHypothesis =>
      simp only [Along]
      cases taken : step? state action with
      | none =>
          simp
      | some next =>
          simp only [agree holds taken,
            inductionHypothesis (preserved holds taken)]

end Conditions

section Traces

variable
  {step? : Step State Action}
  {emit : State → Action → List Event}

@[simp] theorem trace_nil
    (state : State) :
    trace step? emit state [] = [] :=
  rfl

theorem trace_cons_of_step
    {state next : State}
    {action : Action}
    (taken : step? state action = some next)
    (rest : List Action) :
    trace step? emit state (action :: rest) =
      emit state action ++ trace step? emit next rest := by
  simp only [trace, taken]

theorem trace_eq_nil
    {actions : List Action}
    (silent : ∀ action ∈ actions, ∀ state, emit state action = [])
    (state : State) :
    trace step? emit state actions = [] := by
  induction actions generalizing state with
  | nil =>
      rfl
  | cons action rest inductionHypothesis =>
      simp only [trace]
      split
      · rfl
      · rw [silent action List.mem_cons_self, List.nil_append]
        exact inductionHypothesis
          (fun later member =>
            silent later (List.mem_cons_of_mem action member))
          _

theorem trace_append
    {state middle : State}
    {leading : List Action}
    (ran : run? step? state leading = some middle)
    (trailing : List Action) :
    trace step? emit state (leading ++ trailing) =
      trace step? emit state leading ++
        trace step? emit middle trailing := by
  induction leading generalizing state with
  | nil =>
      simp only [run?_nil, Option.some.injEq] at ran
      simp [ran]
  | cons action rest inductionHypothesis =>
      obtain ⟨next, taken, later⟩ := run?_cons_eq_some.mp ran
      simp only [List.cons_append, trace_cons_of_step taken,
        inductionHypothesis later, List.append_assoc]

/--
Silence rule: if the steps from states satisfying an invariant emit nothing
that `relevant` selects, no run from such a state emits it.
-/
theorem trace_silent
    {invariant : State → Prop}
    {condition : State → Action → Prop}
    {relevant : Event → Prop}
    (preserved :
      ∀ {state action next},
        invariant state →
        condition state action →
        step? state action = some next →
        invariant next)
    (silent :
      ∀ {state action},
        invariant state →
        condition state action →
        ∀ event ∈ emit state action, ¬ relevant event)
    {state : State}
    {actions : List Action}
    (holds : invariant state)
    (along : Along step? condition state actions) :
    ∀ event ∈ trace step? emit state actions, ¬ relevant event := by
  induction actions generalizing state with
  | nil =>
      simp
  | cons action rest inductionHypothesis =>
      cases taken : step? state action with
      | none =>
          simp [trace, taken]
      | some next =>
          obtain ⟨meets, restAlong⟩ :=
            (along_cons_of_step taken).mp along
          intro event member
          rw [trace_cons_of_step taken, List.mem_append] at member
          rcases member with now | later
          · exact silent holds meets event now
          · exact inductionHypothesis
              (preserved holds meets taken) restAlong event later

/-- Silence rule for a system that emits nothing at all from an invariant. -/
theorem trace_eq_nil_of_invariant
    {invariant : State → Prop}
    (preserved :
      ∀ {state action next},
        invariant state →
        step? state action = some next →
        invariant next)
    (silent :
      ∀ {state} action, invariant state → emit state action = [])
    {state : State}
    (holds : invariant state)
    (actions : List Action) :
    trace step? emit state actions = [] := by
  induction actions generalizing state with
  | nil =>
      rfl
  | cons action rest inductionHypothesis =>
      cases taken : step? state action with
      | none =>
          simp only [trace, taken]
      | some next =>
          rw [trace_cons_of_step taken, silent action holds,
            List.nil_append]
          exact inductionHypothesis (preserved holds taken)

end Traces

section Lockstep

variable {OtherState OtherAction : Type}

/--
Lockstep rule: a relation that survives every pair of matching steps carries
a run of the first system over to a run of the second one.
-/
theorem run?_lockstep
    {step? : Step State Action}
    {otherStep? : Step OtherState OtherAction}
    {related : State → OtherState → Prop}
    {matching : Action → OtherAction}
    {condition : State → Action → Prop}
    (follows :
      ∀ {state other action next},
        related state other →
        condition state action →
        step? state action = some next →
        ∃ otherNext,
          otherStep? other (matching action) = some otherNext ∧
            related next otherNext)
    {state final : State}
    {other : OtherState}
    {actions : List Action}
    (initially : related state other)
    (along : Along step? condition state actions)
    (ran : run? step? state actions = some final) :
    ∃ otherFinal,
      run? otherStep? other (actions.map matching) =
          some otherFinal ∧
        related final otherFinal := by
  induction actions generalizing state other with
  | nil =>
      simp only [run?_nil, Option.some.injEq] at ran
      exact ⟨other, rfl, ran ▸ initially⟩
  | cons action rest inductionHypothesis =>
      obtain ⟨next, taken, later⟩ := run?_cons_eq_some.mp ran
      obtain ⟨meets, restAlong⟩ := (along_cons_of_step taken).mp along
      obtain ⟨otherNext, otherTaken, nextRelated⟩ :=
        follows initially meets taken
      obtain ⟨otherFinal, otherRan, finalRelated⟩ :=
        inductionHypothesis nextRelated restAlong later
      refine ⟨otherFinal, ?_, finalRelated⟩
      rw [List.map_cons, run?_cons_of_step otherTaken]
      exact otherRan

/--
Two-run rule: if related states take matching steps together, into related
states and with the same events, the two traces are the same.
-/
theorem trace_lockstep
    {Label : Type}
    {step? : Step State Action}
    {otherStep? : Step OtherState OtherAction}
    {emit : State → Action → List Event}
    {otherEmit : OtherState → OtherAction → List Event}
    {related : State → OtherState → Prop}
    {first : Label → Action}
    {second : Label → OtherAction}
    {condition : Label → Prop}
    (follows :
      ∀ {state other label},
        related state other →
        condition label →
        (step? state (first label) = none ∧
            otherStep? other (second label) = none) ∨
          ∃ next otherNext,
            step? state (first label) = some next ∧
              otherStep? other (second label) = some otherNext ∧
              related next otherNext)
    (same :
      ∀ {state other label},
        related state other →
        condition label →
        emit state (first label) = otherEmit other (second label))
    {state : State}
    {other : OtherState}
    {labels : List Label}
    (initially : related state other)
    (meets : ∀ label ∈ labels, condition label) :
    trace step? emit state (labels.map first) =
      trace otherStep? otherEmit other (labels.map second) := by
  induction labels generalizing state other with
  | nil =>
      rfl
  | cons label rest inductionHypothesis =>
      have now := meets label List.mem_cons_self
      have later := fun following member =>
        meets following (List.mem_cons_of_mem label member)
      simp only [List.map_cons]
      rcases follows initially now with
        ⟨stuck, otherStuck⟩ |
        ⟨next, otherNext, taken, otherTaken, nextRelated⟩
      · simp only [trace, stuck, otherStuck]
      · rw [trace_cons_of_step taken, trace_cons_of_step otherTaken,
          same initially now, inductionHypothesis nextRelated later]

end Lockstep

end EPuckTavern.Transition
