import EPuckTavern.Transition.Ledger
import EPuckTavern.Transition.Monitor

namespace EPuckTavern.Transition.Monitor

/-!
# Critical sections happen at once

What a thread does between taking the lock and giving it back looks to the
others like one step.  Beside the monitor stands a system in which it is one;
every run of the monitor is a run of that system, and the threads leave the
lock in it with the same results and in the same order.
-/

variable {Id Shared Local : Type}

/-- What a section comes to. -/
structure Outcome (Shared Local : Type) where
  shared : Shared
  /-- The statement that gives the lock back. -/
  leaves : Local
  /-- Threads are woken on the way. -/
  wakes : Bool

/-- `finish` does what the statement does, and then the rest. -/
def Statement.Finishes
    (finish : Local → Shared → Outcome Shared Local)
    (pc : Local)
    (shared : Shared) : Statement Shared Local → Prop
  | .release _ | .condWait _ => finish pc shared = ⟨shared, pc, false⟩
  | .broadcast next =>
      finish pc shared = { finish next shared with wakes := true }
  | .work run => finish pc shared = finish (run shared).2 (run shared).1
  | .own next => finish pc shared = finish next shared
  | .acquire _ | .idle => True

/-- What is left of a section from each control point inside it. -/
structure Sections (program : Program Shared Local) where
  finish : Local → Shared → Outcome Shared Local
  /-- No thread works on the shared data without the lock. -/
  guarded :
    ∀ pc run, program.statement pc = .work run → program.inside pc = true
  finishes :
    ∀ pc shared,
      program.inside pc = true →
      (program.statement pc).Finishes finish pc shared

/-- The state while no thread is inside the lock. -/
structure Settled (Id Shared Local : Type) where
  shared : Shared
  threads : Id → Status Local

/-- The thread after the statement that gives the lock back. -/
def Program.left
    (program : Program Shared Local)
    (pc : Local) : Status Local :=
  match program.statement pc with
  | .release next => .running next
  | .condWait next => .asleep next
  | _ => .running pc

variable [DecidableEq Id] {program : Program Shared Local}

/-- A section of a thread, with all that comes of it. -/
def Program.enter
    (program : Program Shared Local)
    (outcome : Outcome Shared Local)
    (threads : Id → Status Local)
    (id : Id) : Settled Id Shared Local where
  shared := outcome.shared
  threads :=
    Function.update
      (if outcome.wakes then Status.wake ∘ threads else threads) id
      (program.left outcome.leaves)

namespace Sections

/-- A section is one step, taken with the statement that leaves it. -/
def step?
    (sections : Sections program) :
    Step (Settled Id Shared Local) (Action Id Local)
  | state, .call id pc =>
      (program.called? state.threads id pc).map fun threads =>
        { state with threads := threads }
  | state, .step id =>
      match state.threads id with
      | .running pc =>
          match program.statement pc with
          | .acquire next =>
              some (program.enter (sections.finish next state.shared)
                state.threads id)
          | .own next =>
              some { state with
                threads :=
                  Function.update state.threads id (.running next) }
          | _ => none
      | .asleep _ => none
      | .woken pc =>
          some (program.enter (sections.finish pc state.shared)
            state.threads id)

/-- The events of a step: where a section is left. -/
def emit
    (sections : Sections program)
    (state : Settled Id Shared Local) :
    Action Id Local → List (Id × Local)
  | .call _ _ => []
  | .step id =>
      match state.threads id with
      | .running pc =>
          match program.statement pc with
          | .acquire next =>
              [(id, (sections.finish next state.shared).leaves)]
          | _ => []
      | .asleep _ => []
      | .woken pc => [(id, (sections.finish pc state.shared).leaves)]

/-- The section in progress, if there is one, brought to its end. -/
def settle
    (sections : Sections program)
    (state : State Id Shared Local) : Settled Id Shared Local :=
  match state.owner with
  | none => ⟨state.shared, state.threads⟩
  | some id =>
      match state.threads id with
      | .running pc =>
          program.enter (sections.finish pc state.shared) state.threads id
      | _ => ⟨state.shared, state.threads⟩

/-- The end of the section in progress, which is still to be told. -/
def pending
    (sections : Sections program)
    (state : State Id Shared Local) : List (Id × Local) :=
  match state.owner with
  | none => []
  | some id =>
      match state.threads id with
      | .running pc => [(id, (sections.finish pc state.shared).leaves)]
      | _ => []

theorem settle_of_free
    {sections : Sections program}
    {state : State Id Shared Local}
    (free : state.owner = none) :
    sections.settle state = ⟨state.shared, state.threads⟩ := by
  simp only [settle, free]

omit [DecidableEq Id] in
theorem pending_of_free
    {sections : Sections program}
    {state : State Id Shared Local}
    (free : state.owner = none) :
    sections.pending state = [] := by
  simp only [pending, free]

theorem settle_of_owner
    {sections : Sections program}
    {state : State Id Shared Local}
    {id : Id}
    {pc : Local}
    (owns : state.owner = some id)
    (running : state.threads id = .running pc) :
    sections.settle state =
      program.enter (sections.finish pc state.shared) state.threads id := by
  simp only [settle, owns, running]

omit [DecidableEq Id] in
theorem pending_of_owner
    {sections : Sections program}
    {state : State Id Shared Local}
    {id : Id}
    {pc : Local}
    (owns : state.owner = some id)
    (running : state.threads id = .running pc) :
    sections.pending state =
      [(id, (sections.finish pc state.shared).leaves)] := by
  simp only [pending, owns, running]

end Sections

section Entering

variable {outcome : Outcome Shared Local} {threads : Id → Status Local}

/-- Where a thread was before its section is of no account after it. -/
theorem enter_update_self
    (id : Id)
    (status : Status Local) :
    program.enter outcome (Function.update threads id status) id =
      program.enter outcome threads id := by
  unfold Program.enter
  cases outcome.wakes <;> simp [Function.comp_update]

/-- A section leaves alone the threads that do not sleep. -/
theorem enter_threads_of_running
    {id other : Id}
    {pc : Local}
    (different : other ≠ id)
    (running : threads other = .running pc) :
    (program.enter outcome threads id).threads other = .running pc := by
  unfold Program.enter
  cases outcome.wakes <;> simp [different, running]

/-- A section and a move of another thread outside do not meet. -/
theorem enter_update_of_running
    {id other : Id}
    {after : Local}
    (different : other ≠ id) :
    program.enter outcome
        (Function.update threads other (.running after)) id =
      { program.enter outcome threads id with
        threads :=
          Function.update (program.enter outcome threads id).threads other
            (.running after) } := by
  unfold Program.enter
  cases outcome.wakes <;>
    simp [Function.comp_update, Function.update_comm different, Status.wake]

/-- A broadcast before the rest of a section is a broadcast in it. -/
theorem enter_wakes
    (id : Id) :
    program.enter outcome (Status.wake ∘ threads) id =
      program.enter { outcome with wakes := true } threads id := by
  have twice : Status.wake ∘ Status.wake ∘ threads = Status.wake ∘ threads := by
    funext other
    cases h : threads other <;> simp [Status.wake, h]
  unfold Program.enter
  cases outcome.wakes <;> simp [twice]

/-- An idle thread may call what begins a call. -/
theorem called?_of_idle
    {id : Id}
    {current pc : Local}
    (running : threads id = .running current)
    (idle : program.statement current = .idle)
    (entry : program.entry pc = true) :
    program.called? threads id pc =
      some (Function.update threads id (.running pc)) := by
  simp only [Program.called?, running, idle, entry, if_true]

end Entering

namespace Sections

/-- A step is a whole section, or it is on a thread's own data. -/
theorem step?_cases
    {sections : Sections program}
    {settled after : Settled Id Shared Local}
    {action : Action Id Local}
    (taken : sections.step? settled action = some after) :
    (∃ id before pc,
        settled.threads id = .running before ∧
          after =
            { settled with
              threads :=
                Function.update settled.threads id (.running pc) } ∧
          sections.emit settled action = []) ∨
      ∃ id pc,
        ((∃ before,
            settled.threads id = .running before ∧
              program.statement before = .acquire pc) ∨
          settled.threads id = .woken pc) ∧
          after =
            program.enter (sections.finish pc settled.shared)
              settled.threads id ∧
          sections.emit settled action =
            [(id, (sections.finish pc settled.shared).leaves)] := by
  cases action with
  | call id pc =>
      obtain ⟨threads, called, rfl⟩ := Option.map_eq_some_iff.mp taken
      obtain ⟨current, running, -, -, rfl⟩ := called?_eq_some called
      exact .inl ⟨id, current, pc, running, rfl, rfl⟩
  | step id =>
      simp only [step?] at taken
      cases thread : settled.threads id with
      | running pc =>
          simp only [thread] at taken
          cases here : program.statement pc with
          | acquire next =>
              simp only [here] at taken
              cases taken
              exact .inr ⟨id, next, .inl ⟨pc, thread, here⟩, rfl,
                by simp [emit, thread, here]⟩
          | own next =>
              simp only [here] at taken
              cases taken
              exact .inl ⟨id, pc, next, thread, rfl,
                by simp [emit, thread, here]⟩
          | release next | condWait next | broadcast next | work run | idle =>
              simp only [here] at taken
              cases taken
      | asleep pc =>
          simp only [thread] at taken
          cases taken
      | woken pc =>
          simp only [thread] at taken
          cases taken
          exact .inr ⟨id, pc, .inr thread, rfl, by simp [emit, thread]⟩

variable {sections : Sections program} {state next : State Id Shared Local}

/-- A step outside the lock, with or without a section in progress. -/
theorem settle_of_outside
    (sections : Sections program)
    {id : Id}
    {pc : Local}
    (after : Local)
    (exclusive : Exclusive program state)
    (running : state.threads id = .running pc)
    (outside : program.inside pc = false) :
    (sections.settle state).threads id = .running pc ∧
      sections.settle
          { state with
            threads := Function.update state.threads id (.running after) } =
        { sections.settle state with
          threads :=
            Function.update (sections.settle state).threads id
              (.running after) } ∧
      sections.pending
          { state with
            threads := Function.update state.threads id (.running after) } =
        sections.pending state := by
  cases owned : state.owner with
  | none =>
      simp [settle, pending, owned, running]
  | some owner =>
      obtain ⟨current, thread, inside⟩ := exclusive.owner owner owned
      have different : id ≠ owner := by
        rintro rfl
        cases running.symm.trans thread
        exact absurd (outside.symm.trans inside) Bool.false_ne_true
      have kept :
          Function.update state.threads id (.running after) owner =
            .running current := by
        rw [Function.update_of_ne different.symm, thread]
      refine ⟨?_, ?_, ?_⟩
      · rw [settle_of_owner owned thread]
        exact enter_threads_of_running different running
      · simp only [settle, owned, thread, kept]
        exact enter_update_of_running different
      · simp only [pending, owned, thread, kept]

/-- A statement that keeps the lock brings the section no nearer to others. -/
theorem settle_of_stays
    (sections : Sections program)
    {id : Id}
    {pc after : Local}
    {shared : Shared}
    (owned : state.owner = some id)
    (running : state.threads id = .running pc)
    (finishes :
      sections.finish pc state.shared = sections.finish after shared) :
    sections.settle
          { state with
            shared := shared
            threads := Function.update state.threads id (.running after) } =
        sections.settle state ∧
      sections.pending
          { state with
            shared := shared
            threads := Function.update state.threads id (.running after) } =
        sections.pending state := by
  refine ⟨?_, ?_⟩
  · rw [settle_of_owner owned running, finishes]
    simp only [settle, owned, Function.update_self]
    exact enter_update_self id (.running after)
  · rw [pending_of_owner owned running, finishes]
    simp [pending, owned]

/-- A statement that gives the lock back ends the section. -/
theorem settle_of_leaves
    (sections : Sections program)
    {id : Id}
    {pc : Local}
    (owned : state.owner = some id)
    (running : state.threads id = .running pc)
    (finishes :
      sections.finish pc state.shared = ⟨state.shared, pc, false⟩) :
    sections.settle
          { state with
            owner := none
            threads :=
              Function.update state.threads id (program.left pc) } =
        sections.settle state ∧
      sections.pending state = [(id, pc)] := by
  refine ⟨?_, ?_⟩
  · rw [settle_of_owner owned running, finishes]
    simp [settle, Program.enter]
  · rw [pending_of_owner owned running, finishes]

/--
Step lemma: a step of the monitor is a step in which sections happen at once,
or one that nobody else can see.
-/
theorem settle_step
    (sections : Sections program)
    {action : Action Id Local}
    (exclusive : Exclusive program state)
    (taken : program.step? state action = some next) :
    (sections.settle next = sections.settle state ∧
        program.emit state action ++ sections.pending next =
          sections.pending state) ∨
      (sections.step? (sections.settle state) action =
          some (sections.settle next) ∧
        program.emit state action ++ sections.pending next =
          sections.pending state ++
            sections.emit (sections.settle state) action) := by
  cases move_of_step? taken with
  | @call id pc threads called =>
      obtain ⟨current, running, idle, entry, rfl⟩ := called?_eq_some called
      have outside := program.coherent current
      rw [idle] at outside
      obtain ⟨thread, settled, pends⟩ :=
        sections.settle_of_outside pc exclusive running outside
      refine .inr ⟨?_, ?_⟩
      · rw [settled]
        simp [step?, called?_of_idle thread idle entry]
      · rw [pends]
        simp [Program.emit, emit]
  | @own id pc after running here =>
      have coherent := program.coherent pc
      rw [here] at coherent
      cases inside : program.inside pc with
      | true =>
          have owned := exclusive.only id pc running inside
          have finishes := sections.finishes pc state.shared inside
          rw [here] at finishes
          simp only [Statement.Finishes] at finishes
          obtain ⟨settled, pends⟩ :=
            sections.settle_of_stays owned running finishes
          exact .inl ⟨settled, by simp [Program.emit, running, here, pends]⟩
      | false =>
          obtain ⟨thread, settled, pends⟩ :=
            sections.settle_of_outside after exclusive running inside
          refine .inr ⟨?_, ?_⟩
          · rw [settled]
            simp [step?, thread, here]
          · rw [pends]
            simp [Program.emit, emit, thread, running, here]
  | @acquire id pc after running here free =>
      refine .inr ⟨?_, ?_⟩
      · rw [settle_of_free free]
        simp only [step?, running, here, settle, Function.update_self]
        exact congrArg some (enter_update_self id (.running after)).symm
      · rw [pending_of_free free, settle_of_free free]
        simp [Program.emit, emit, pending, running, here]
  | @resume id pc woken free =>
      refine .inr ⟨?_, ?_⟩
      · rw [settle_of_free free]
        simp only [step?, woken, settle, Function.update_self]
        exact congrArg some (enter_update_self id (.running pc)).symm
      · rw [pending_of_free free, settle_of_free free]
        simp [Program.emit, emit, pending, woken]
  | @release id pc after running here =>
      have coherent := program.coherent pc
      rw [here] at coherent
      have owned := exclusive.only id pc running coherent.1
      have finishes := sections.finishes pc state.shared coherent.1
      rw [here] at finishes
      simp only [Statement.Finishes] at finishes
      obtain ⟨settled, pends⟩ :=
        sections.settle_of_leaves owned running finishes
      simp only [Program.left, here] at settled
      refine .inl ⟨settled, ?_⟩
      rw [pends, pending_of_free rfl]
      simp [Program.emit, running, here]
  | @condWait id pc after running here =>
      have coherent := program.coherent pc
      rw [here] at coherent
      have owned := exclusive.only id pc running coherent.1
      have finishes := sections.finishes pc state.shared coherent.1
      rw [here] at finishes
      simp only [Statement.Finishes] at finishes
      obtain ⟨settled, pends⟩ :=
        sections.settle_of_leaves owned running finishes
      simp only [Program.left, here] at settled
      refine .inl ⟨settled, ?_⟩
      rw [pends, pending_of_free rfl]
      simp [Program.emit, running, here]
  | @broadcast id pc after running here =>
      have coherent := program.coherent pc
      rw [here] at coherent
      have owned := exclusive.only id pc running coherent.1
      have finishes := sections.finishes pc state.shared coherent.1
      rw [here] at finishes
      simp only [Statement.Finishes] at finishes
      refine .inl ⟨?_, ?_⟩
      · rw [settle_of_owner owned running, finishes, ← enter_wakes]
        simp only [settle, owned, Function.update_self]
        exact enter_update_self id (.running after)
      · rw [pending_of_owner owned running, finishes]
        simp [pending, owned, Program.emit, running, here]
  | @work id pc run running here =>
      have inside := sections.guarded pc run here
      have owned := exclusive.only id pc running inside
      have finishes := sections.finishes pc state.shared inside
      rw [here] at finishes
      simp only [Statement.Finishes] at finishes
      obtain ⟨settled, pends⟩ :=
        sections.settle_of_stays owned running finishes
      exact .inl ⟨settled, by simp [Program.emit, running, here, pends]⟩

/-- Run lemma: every run of the monitor is one with sections at once. -/
theorem settle_run
    (sections : Sections program)
    {final : State Id Shared Local}
    {actions : List (Action Id Local)}
    (exclusive : Exclusive program state)
    (ran : run? program.step? state actions = some final) :
    ∃ sectionActions,
      sectionActions.Sublist actions ∧
        run? sections.step? (sections.settle state) sectionActions =
          some (sections.settle final) ∧
        trace program.step? program.emit state actions ++
            sections.pending final =
          sections.pending state ++
            trace sections.step? sections.emit (sections.settle state)
              sectionActions := by
  induction actions generalizing state with
  | nil =>
      simp only [run?_nil, Option.some.injEq] at ran
      subst ran
      exact ⟨[], List.Sublist.refl [], rfl, by simp⟩
  | cons action rest inductionHypothesis =>
      obtain ⟨next, taken, later⟩ := run?_cons_eq_some.mp ran
      obtain ⟨sectionActions, within, sectionRun, told⟩ :=
        inductionHypothesis (exclusive_step exclusive taken) later
      rw [trace_cons_of_step taken, List.append_assoc, told]
      rcases sections.settle_step exclusive taken with
        ⟨same, silent⟩ | ⟨sectionTaken, telling⟩
      · refine ⟨sectionActions, within.cons action, same ▸ sectionRun, ?_⟩
        rw [← List.append_assoc, silent, same]
      · refine ⟨action :: sectionActions, within.cons_cons action, ?_, ?_⟩
        · rw [run?_cons_of_step sectionTaken]
          exact sectionRun
        · rw [← List.append_assoc, telling, trace_cons_of_step sectionTaken,
            List.append_assoc]

/--
Object rule: where each section is an operation that some object accepts, the
threads leave the lock in an order in which the object accepts all of them.
Between two sections the shared data is what the object has come to.
-/
theorem trace_accepted_of_sections
    {Object : Type}
    {object? : Step Object (Id × Local)}
    {related : Settled Id Shared Local → Object → Prop}
    (accepts :
      ∀ {settled after : Settled Id Shared Local} {object : Object}
        {action : Action Id Local},
        related settled object →
        sections.step? settled action = some after →
        ∃ object',
          run? object? object (sections.emit settled action) =
              some object' ∧
            related after object')
    {final : State Id Shared Local}
    {object : Object}
    {actions : List (Action Id Local)}
    (exclusive : Exclusive program state)
    (free : state.owner = none)
    (holds : related ⟨state.shared, state.threads⟩ object)
    (ran : run? program.step? state actions = some final) :
    ∃ object',
      run? object? object
          (trace program.step? program.emit state actions) =
            some object' ∧
        (final.owner = none →
          related ⟨final.shared, final.threads⟩ object') := by
  obtain ⟨sectionActions, -, sectionRun, told⟩ :=
    sections.settle_run exclusive ran
  rw [pending_of_free free, List.nil_append] at told
  rw [settle_of_free free] at sectionRun told
  obtain ⟨reached, accepted, ends⟩ :=
    trace_accepted accepts holds sectionRun
  rw [← told] at accepted
  obtain ⟨object', earlier, -⟩ := run?_append_eq_some.mp accepted
  refine ⟨object', earlier, fun released => ?_⟩
  rw [pending_of_free released, List.append_nil, earlier] at accepted
  cases accepted
  rw [settle_of_free released] at ends
  exact ends

end Sections

end EPuckTavern.Transition.Monitor
