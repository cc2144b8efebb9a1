import EPuckTavern.Transition.Run

namespace EPuckTavern.Transition

/-!
# Systems with a thread that waits

Two rules about a wait that another thread has to end.  The first finds the
runs in which the wait never gets stuck, the second bounds the steps of the
other thread that end it.
-/

variable {State Action : Type} {step? : Step State Action}

/--
Exactness rule: where the steps that meet a condition keep an invariant which
excludes the bad states, and any other step leads to the bad states for good,
the runs that end well are those whose steps all meet the condition.
-/
theorem run?_exact_along
    {invariant bad : State → Prop}
    {condition : State → Action → Prop}
    (preserved :
      ∀ {state action next},
        invariant state →
        condition state action →
        step? state action = some next →
        invariant next)
    (excluded : ∀ {state}, invariant state → ¬ bad state)
    (violated :
      ∀ {state action next},
        invariant state →
        ¬ condition state action →
        step? state action = some next →
        bad next)
    (lasting :
      ∀ {state action next},
        bad state →
        step? state action = some next →
        bad next)
    {state final : State}
    {actions : List Action}
    (holds : invariant state)
    (ran : run? step? state actions = some final) :
    ¬ bad final ↔ Along step? condition state actions := by
  induction actions generalizing state with
  | nil =>
      simp only [run?_nil, Option.some.injEq] at ran
      exact ⟨fun _ => trivial, fun _ => excluded (ran ▸ holds)⟩
  | cons action rest inductionHypothesis =>
      obtain ⟨next, taken, later⟩ := run?_cons_eq_some.mp ran
      rw [along_cons_of_step taken]
      by_cases meets : condition state action
      · rw [inductionHypothesis (preserved holds meets taken) later]
        exact ⟨fun along => ⟨meets, along⟩, And.right⟩
      · have stuck : bad final :=
          run?_invariant lasting (violated holds meets taken) later
        exact ⟨fun fine => (fine stuck).elim,
          fun along => (meets along.1).elim⟩

/--
Progress rule with a history: the steps that are still needed may depend on
the actions so far, all of which an environment has to allow.  Where no step
asks for more of them and each step of some kind for fewer, a run with enough
steps of the kind comes to the end.
-/
theorem run?_reaches_within
    {needs : List Action → State → Nat → Prop}
    {reached : State → Prop}
    {allowed : List Action → Prop}
    {helps : Action → Bool}
    (goesOn :
      ∀ {past state action next needed},
        needs past state needed →
        allowed (past ++ [action]) →
        step? state action = some next →
        reached next ∨
          ∃ fewer,
            needs (past ++ [action]) next fewer ∧
              fewer + (if helps action then 1 else 0) ≤ needed)
    (earlier : ∀ {past later}, allowed (past ++ later) → allowed past)
    {past actions : List Action}
    {state final : State}
    {needed : Nat}
    (holds : needs past state needed)
    (isAllowed : allowed (past ++ actions))
    (ran : run? step? state actions = some final)
    (enough : needed < actions.countP helps) :
    ∃ leading trailing middle,
      actions = leading ++ trailing ∧
        run? step? state leading = some middle ∧
        reached middle := by
  induction actions generalizing past state needed with
  | nil =>
      simp at enough
  | cons action rest inductionHypothesis =>
      obtain ⟨next, taken, later⟩ := run?_cons_eq_some.mp ran
      rw [← List.singleton_append, ← List.append_assoc] at isAllowed
      rcases goesOn holds (earlier isAllowed) taken with
        ended | ⟨fewer, kept, nearer⟩
      · exact ⟨[action], rest, next, rfl, by simp [run?, taken], ended⟩
      · rw [List.countP_cons] at enough
        obtain ⟨leading, trailing, middle, split, reaching, ended⟩ :=
          inductionHypothesis kept isAllowed later (by omega)
        exact ⟨action :: leading, trailing, middle, by simp [split],
          (run?_cons_of_step taken leading).trans reaching, ended⟩

/--
Progress rule: where no step delays the end of a wait and each step of some
kind brings it nearer, a run with enough steps of the kind comes to the end.
-/
theorem run?_reaches
    {invariant reached : State → Prop}
    {measure : State → Nat}
    {helps : Action → Bool}
    (goesOn :
      ∀ {state action next},
        invariant state →
        step? state action = some next →
        reached next ∨
          invariant next ∧
            measure next + (if helps action then 1 else 0) ≤ measure state)
    {state final : State}
    {actions : List Action}
    (holds : invariant state)
    (ran : run? step? state actions = some final)
    (enough : measure state < actions.countP helps) :
    ∃ leading trailing middle,
      actions = leading ++ trailing ∧
        run? step? state leading = some middle ∧
        reached middle := by
  refine @run?_reaches_within State Action step?
    (fun _ state needed => invariant state ∧ measure state = needed) reached
    (fun _ => True) helps ?_ (fun _ => trivial) [] actions state final
    (measure state) ⟨holds, rfl⟩ trivial ran enough
  rintro _ state action next _ ⟨kept, rfl⟩ _ taken
  rcases goesOn kept taken with ended | ⟨stays, nearer⟩
  · exact .inl ended
  · exact .inr ⟨measure next, ⟨stays, rfl⟩, nearer⟩

end EPuckTavern.Transition
